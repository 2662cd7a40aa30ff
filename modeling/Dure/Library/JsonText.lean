import Mathlib

/-! Compact JSON text: what a serialiser without whitespace writes. -/

namespace Dure.Library.JsonText

def hexDigit (value : Nat) : Char :=
  if value < 10 then Char.ofNat (48 + value) else Char.ofNat (87 + value)

/-- Quotes, backslashes and the characters below the space are escaped, all others are
written as they are. -/
def escape (character : Char) : List Char :=
  match character with
  | '"' => ['\\', '"']
  | '\\' => ['\\', '\\']
  | '\n' => ['\\', 'n']
  | '\r' => ['\\', 'r']
  | '\t' => ['\\', 't']
  | other =>
    if other.toNat = 8 then
      ['\\', 'b']
    else if other.toNat = 12 then
      ['\\', 'f']
    else if other.toNat < 32 then
      ['\\', 'u', '0', '0', hexDigit (other.toNat / 16), hexDigit (other.toNat % 16)]
    else
      [other]

def string (value : String) : String :=
  "\"" ++ String.ofList (value.toList.flatMap escape) ++ "\""

def separated : List String → String
  | [] => ""
  | [item] => item
  | item :: rest => item ++ "," ++ separated rest

def array (items : List String) : String := "[" ++ separated items ++ "]"

def object (fields : List (String × String)) : String :=
  "\x7b" ++ separated (fields.map (fun field => string field.1 ++ ":" ++ field.2)) ++ "\x7d"

example : object [("a", string "x\ny"), ("b", array ["1", "2"])]
    = "\x7b\"a\":\"x\\ny\",\"b\":[1,2]\x7d" := by decide

/-- The bytes that are written for a character. -/
def escapedSize (character : Char) : Nat :=
  match character with
  | '"' | '\\' | '\n' | '\r' | '\t' => 2
  | other =>
    if other.toNat = 8 ∨ other.toNat = 12 then 2
    else if other.toNat < 32 then 6
    else other.utf8Size

theorem size_escape (character : Char)
    : String.utf8Len (escape character) = escapedSize character := by
  have digits : ∀ value < 32, String.utf8Len
      ['\\', 'u', '0', '0', hexDigit (value / 16), hexDigit (value % 16)] = 6 := by decide
  unfold escape escapedSize
  split <;> try rfl
  split_ifs <;> first | rfl | omega | exact digits _ ‹_› | simp [String.utf8Len]

/-- The bytes that are written for a text, its quotes included. -/
def stringSize (text : List Char) : Nat := 2 + (text.map escapedSize).sum

theorem size_string (value : String)
    : (string value).utf8ByteSize = stringSize value.toList := by
  have quote : "\"".utf8ByteSize = 1 := rfl
  have inner (text : List Char)
      : String.utf8Len (text.flatMap escape) = (text.map escapedSize).sum := by
    induction text with
    | nil => rfl
    | cons character rest ih => simp [String.utf8Len_append, size_escape, ih]
  simp only [string, String.utf8ByteSize_append, String.utf8ByteSize_ofList, inner, stringSize]
  omega

theorem size_separated (items : List String)
    : (separated items).utf8ByteSize
      = (items.map String.utf8ByteSize).sum + (items.length - 1) := by
  induction items with
  | nil => rfl
  | cons item rest ih =>
    cases rest with
    | nil => simp [separated]
    | cons next later =>
      have comma : ",".utf8ByteSize = 1 := rfl
      simp only [separated, String.utf8ByteSize_append, ih, List.map_cons, List.sum_cons,
        List.length_cons]
      omega

theorem size_array (items : List String)
    : (array items).utf8ByteSize
      = (items.map String.utf8ByteSize).sum + (items.length - 1) + 2 := by
  have brackets : "[".utf8ByteSize = 1 ∧ "]".utf8ByteSize = 1 := ⟨rfl, rfl⟩
  simp only [array, String.utf8ByteSize_append, size_separated]
  omega

end Dure.Library.JsonText
