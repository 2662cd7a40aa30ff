import Mathlib

/-! Numbers as bytes of a fixed width, least significant byte first. -/

namespace Dure.Library.LittleEndian

/-- The lowest `width` bytes of a number. -/
def toBytes : Nat → Nat → List UInt8
  | 0, _ => []
  | width + 1, value => UInt8.ofNat value :: toBytes width (value / 256)

def ofBytes : List UInt8 → Nat
  | [] => 0
  | byte :: rest => byte.toNat + 256 * ofBytes rest

@[simp]
theorem length_toBytes (width value : Nat) : (toBytes width value).length = width := by
  induction width generalizing value with
  | zero => rfl
  | succ width ih => simp [toBytes, ih]

/-- A number that fits its width is read back from its bytes. -/
theorem ofBytes_toBytes {width value : Nat} (fits : value < 256 ^ width)
    : ofBytes (toBytes width value) = value := by
  induction width generalizing value with
  | zero =>
    rw [Nat.pow_zero] at fits
    simp only [toBytes, ofBytes]
    omega
  | succ width ih =>
    have quotient : value / 256 < 256 ^ width := by
      rw [Nat.pow_succ] at fits
      exact Nat.div_lt_of_lt_mul (by rwa [Nat.mul_comm])
    simp only [toBytes, ofBytes, ih quotient, UInt8.toNat_ofNat']
    exact Nat.mod_add_div value 256

end Dure.Library.LittleEndian
