import Mathlib

/-! A list cut into pieces of one size; the last piece may be shorter. -/

namespace Dure.Library

open List

variable {α : Type}

/-- The first `fuel` pieces. -/
def chunksUpTo (size : Nat) : Nat → List α → List (List α)
  | 0, _ => []
  | _ + 1, [] => []
  | fuel + 1, head :: tail =>
    (head :: tail).take size :: chunksUpTo size fuel ((head :: tail).drop size)

def chunks (size : Nat) (items : List α) : List (List α) :=
  chunksUpTo size items.length items

section

variable {size : Nat} (positive : 0 < size)
include positive

theorem flatten_chunksUpTo {fuel : Nat} {items : List α} (enough : items.length ≤ fuel)
    : (chunksUpTo size fuel items).flatten = items := by
  induction fuel generalizing items with
  | zero =>
    obtain rfl := length_eq_zero_iff.mp (Nat.le_zero.mp enough)
    rfl
  | succ fuel ih =>
    cases items with
    | nil => rfl
    | cons head tail =>
      have shorter : ((head :: tail).drop size).length ≤ fuel := by
        simp only [length_drop, length_cons] at enough ⊢
        omega
      rw [chunksUpTo, flatten_cons, ih shorter, take_append_drop]

/-- The pieces are the list again. -/
theorem flatten_chunks (items : List α) : (chunks size items).flatten = items :=
  flatten_chunksUpTo positive le_rfl

theorem length_chunksUpTo {fuel : Nat} {items : List α} (enough : items.length ≤ fuel)
    : (chunksUpTo size fuel items).length = (items.length + size - 1) / size := by
  induction fuel generalizing items with
  | zero =>
    obtain rfl := length_eq_zero_iff.mp (Nat.le_zero.mp enough)
    simp only [chunksUpTo, length_nil]
    exact (Nat.div_eq_of_lt (by omega)).symm
  | succ fuel ih =>
    cases items with
    | nil =>
      simp only [chunksUpTo, length_nil]
      exact (Nat.div_eq_of_lt (by omega)).symm
    | cons head tail =>
      have shorter : ((head :: tail).drop size).length ≤ fuel := by
        simp only [length_drop, length_cons] at enough ⊢
        omega
      rw [chunksUpTo, length_cons, ih shorter, length_drop]
      generalize long : (head :: tail).length = length
      have some_ : 0 < length := by simp [← long]
      by_cases fits : length ≤ size
      · rw [Nat.sub_eq_zero_of_le fits, Nat.div_eq_of_lt (by omega)]
        rw [show length + size - 1 = size + (length - 1) by omega, Nat.add_div_left _ positive,
          Nat.div_eq_of_lt (by omega)]
      · rw [show length + size - 1 = length - size + size - 1 + size by omega,
          Nat.add_div_right _ positive]

/-- There are as many pieces as the length needs, rounded up. -/
theorem length_chunks (items : List α)
    : (chunks size items).length = (items.length + size - 1) / size :=
  length_chunksUpTo positive le_rfl

end

end Dure.Library
