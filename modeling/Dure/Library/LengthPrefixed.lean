import Mathlib

/-! A list of texts written as one text: each part after its length in bytes and a colon.
Reading the text back gives the parts, so no two lists are written alike.
-/

namespace Dure.Library.LengthPrefixed

open List

def frame (part : String) : String := toString part.utf8ByteSize ++ ":" ++ part

def encode : List String → String
  | [] => ""
  | part :: rest => frame part ++ encode rest

/-- Split off the characters that make up exactly `bytes` bytes. -/
def takeBytes : Nat → List Char → Option (List Char × List Char)
  | 0, characters => some ([], characters)
  | _ + 1, [] => none
  | bytes + 1, character :: rest =>
    if character.utf8Size ≤ bytes + 1 then
      (takeBytes (bytes + 1 - character.utf8Size) rest).map
        (fun split => (character :: split.1, split.2))
    else
      none

/-- Read one part and return what follows it. -/
def decodeFrame (characters : List Char) : Option (String × List Char) :=
  match characters.dropWhile Char.isDigit with
  | ':' :: rest =>
    (takeBytes (Nat.ofDigitChars 10 (characters.takeWhile Char.isDigit) 0) rest).map
      (fun split => (String.ofList split.1, split.2))
  | _ => none

/-- Read parts to the end of the text; every part takes at least one character, so the
length of the text is enough fuel. -/
def decodeParts : Nat → List Char → Option (List String)
  | _, [] => some []
  | 0, _ :: _ => none
  | fuel + 1, character :: characters =>
    match decodeFrame (character :: characters) with
    | none => none
    | some (part, rest) => (decodeParts fuel rest).map (part :: ·)

def decode (text : String) : Option (List String) :=
  decodeParts text.toList.length text.toList

/-- Taking the size of a written part gives that part back, by induction on it. -/
theorem takeBytes_append (part rest : List Char)
    : takeBytes (String.utf8Len part) (part ++ rest) = some (part, rest) := by
  induction part with
  | nil => cases rest <;> simp [takeBytes]
  | cons character part ih =>
    obtain ⟨bytes, size⟩ := Nat.exists_eq_add_one.mpr character.utf8Size_pos
    rw [String.utf8Len_cons, size, ← Nat.add_assoc, cons_append, takeBytes,
      if_pos (by omega)]
    have remaining : String.utf8Len part + bytes + 1 - character.utf8Size
        = String.utf8Len part := by omega
    rw [remaining, ih]
    rfl

theorem digits_isDigit (number : Nat) : ∀ digit ∈ (toString number).toList, digit.isDigit := by
  intro digit member
  rw [Nat.toString_eq_repr, Nat.toList_repr] at member
  exact Nat.isDigit_of_mem_toDigits (by decide) (by decide) member

/-- Decimal texts determine their numbers, by reading the digits back. -/
theorem natToString_injective : Function.Injective (toString : Nat → String) := by
  intro left right same
  have digits : Nat.toDigits 10 left = Nat.toDigits 10 right := by
    rw [← Nat.toList_repr, ← Nat.toList_repr, ← Nat.toString_eq_repr, ← Nat.toString_eq_repr,
      same]
  rw [← Nat.ofDigitChars_ten_toDigits (n := left), digits, Nat.ofDigitChars_ten_toDigits]

theorem decodeFrame_frame (part : String) (rest : List Char)
    : decodeFrame ((frame part).toList ++ rest) = some (part, rest) := by
  have digits := digits_isDigit part.utf8ByteSize
  have written : (frame part).toList ++ rest
      = (toString part.utf8ByteSize).toList ++ ':' :: (part.toList ++ rest) := by
    simp [frame]
  have taken : ((frame part).toList ++ rest).takeWhile Char.isDigit
      = (toString part.utf8ByteSize).toList := by
    rw [written, takeWhile_append_of_pos digits]
    simp [Char.isDigit]
  have dropped : ((frame part).toList ++ rest).dropWhile Char.isDigit
      = ':' :: (part.toList ++ rest) := by
    rw [written, dropWhile_append_of_pos digits]
    simp [Char.isDigit]
  have size : Nat.ofDigitChars 10 (toString part.utf8ByteSize).toList 0
      = String.utf8Len part.toList := by
    rw [Nat.toString_eq_repr, Nat.toList_repr, Nat.ofDigitChars_ten_toDigits, String.utf8Len_toList]
  rw [decodeFrame, dropped, taken]
  simp only [size, takeBytes_append, Option.map_some, String.ofList_toList]

/-- The first colon ends the digits, so a number and the text after it can be read back. -/
theorem numbered_inj {left right : Nat} {text text' : String}
    (same : toString left ++ ":" ++ text = toString right ++ ":" ++ text')
    : left = right ∧ text = text' := by
  have characters : (toString left).toList ++ ':' :: text.toList
      = (toString right).toList ++ ':' :: text'.toList := by
    simpa using congrArg String.toList same
  have digits (number : Nat) (rest : List Char)
      : ((toString number).toList ++ ':' :: rest).takeWhile Char.isDigit
        = (toString number).toList := by
    rw [takeWhile_append_of_pos (digits_isDigit number)]
    simp [Char.isDigit]
  have numbers : (toString left).toList = (toString right).toList := by
    rw [← digits left text.toList, characters, digits]
  refine ⟨natToString_injective (String.toList_inj.mp numbers), ?_⟩
  rw [numbers] at characters
  exact String.toList_inj.mp (cons.inj (append_cancel_left characters)).2

theorem frame_ne_nil (part : String) : (frame part).toList ≠ [] := by
  simp [frame]

/-- Enough fuel reads every written part, by induction on the parts. -/
theorem decodeParts_encode (parts : List String) (fuel : Nat)
    (enough : parts.length ≤ fuel)
    : decodeParts fuel (encode parts).toList = some parts := by
  induction parts generalizing fuel with
  | nil => cases fuel <;> simp [encode, decodeParts]
  | cons part parts ih =>
    cases fuel with
    | zero => simp at enough
    | succ fuel =>
      have nonempty : (encode (part :: parts)).toList ≠ [] := by
        simp [encode, frame]
      obtain ⟨head, tail, shape⟩ := exists_cons_of_ne_nil nonempty
      have read : decodeFrame (head :: tail) = some (part, (encode parts).toList) := by
        rw [← shape, encode, String.toList_append]
        exact decodeFrame_frame part _
      rw [shape, decodeParts, read]
      simp only [ih fuel (by simpa using enough), Option.map_some]

theorem length_le_encode (parts : List String)
    : parts.length ≤ (encode parts).toList.length := by
  induction parts with
  | nil => simp [encode]
  | cons part parts ih =>
    have nonempty := length_pos_iff.mpr (frame_ne_nil part)
    simp only [encode, String.toList_append, length_append, length_cons]
    omega

theorem decode_encode (parts : List String) : decode (encode parts) = some parts :=
  decodeParts_encode parts _ (length_le_encode parts)

/-- Distinct lists of parts are written differently. -/
theorem encode_injective : Function.Injective encode := by
  intro left right same
  have read := decode_encode left
  rw [same, decode_encode right] at read
  exact (Option.some.inj read).symm

@[simp]
theorem encode_inj {left right : List String} : encode left = encode right ↔ left = right :=
  encode_injective.eq_iff

/-- A number below `10 ^ k` takes at most `k` digits. -/
theorem toString_size_le {number digits : Nat} (positive : 0 < digits)
    (small : number < 10 ^ digits)
    : (toString number).utf8ByteSize ≤ digits := by
  have ascii : ∀ digit ∈ Nat.toDigits 10 number, digit.utf8Size = 1 := by
    intro digit member
    have isDigit := Nat.isDigit_of_mem_toDigits (by decide) (by decide) member
    rw [Char.isDigit_iff_toNat] at isDigit
    have upper : digit.val ≤ 0x7f := by
      have bound : digit.val.toNat ≤ 57 := isDigit.2
      rw [UInt32.le_iff_toNat_le]
      exact le_trans bound (by decide)
    exact if_pos upper
  have size : String.utf8Len (Nat.toDigits 10 number) = (Nat.toDigits 10 number).length := by
    generalize Nat.toDigits 10 number = written at ascii
    induction written <;> simp_all
  rw [← String.utf8Len_toList, Nat.toString_eq_repr, Nat.toList_repr, size]
  exact (Nat.length_toDigits_le_iff (by decide) positive).mpr small

/-- A part of fewer than `10 ^ digits` bytes takes at most `digits + 1` bytes more. -/
theorem frame_size_le {part : String} {digits bound : Nat} (positive : 0 < digits)
    (size : part.utf8ByteSize ≤ bound) (small : bound < 10 ^ digits)
    : (frame part).utf8ByteSize ≤ digits + 1 + bound := by
  have prefixed := toString_size_le positive (lt_of_le_of_lt size small)
  have colon : (":" : String).utf8ByteSize = 1 := by decide
  simp only [frame, String.utf8ByteSize_append, colon]
  omega

/-- A property of digits, the colon and the characters of every part holds of the text. -/
theorem encode_all {property : Char → Prop} {parts : List String}
    (digits : ∀ character : Char, character.isDigit → property character)
    (colon : property ':')
    (content : ∀ part ∈ parts, ∀ character ∈ part.toList, property character)
    : ∀ character ∈ (encode parts).toList, property character := by
  induction parts with
  | nil => simp [encode]
  | cons part parts ih =>
    intro character member
    simp only [encode, frame, String.toList_append, mem_append] at member
    rcases member with ((size | mark) | here) | later
    · exact digits character (digits_isDigit _ character size)
    · have same : character = ':' := by simpa using mark
      exact same ▸ colon
    · exact content part (by simp) character here
    · exact ih (fun other among => content other (by simp [among])) character later

end Dure.Library.LengthPrefixed
