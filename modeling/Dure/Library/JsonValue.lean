import Dure.Library.JsonText

/-! JSON values and the compact text a serialiser writes for them. -/

namespace Dure.Library

/-- A number is given by the text that is written for it. The fields of an object stand in
the order in which they are written. -/
inductive JsonValue where
  | null
  | boolean (value : Bool)
  | number (text : String)
  | string (value : String)
  | array (items : List JsonValue)
  | object (fields : List (String × JsonValue))

namespace JsonValue

mutual

def same : JsonValue → JsonValue → Bool
  | .null, .null => true
  | .boolean left, .boolean right => left == right
  | .number left, .number right => left == right
  | .string left, .string right => left == right
  | .array left, .array right => sameItems left right
  | .object left, .object right => sameFields left right
  | _, _ => false

def sameItems : List JsonValue → List JsonValue → Bool
  | [], [] => true
  | left :: lefts, right :: rights => same left right && sameItems lefts rights
  | _, _ => false

def sameFields : List (String × JsonValue) → List (String × JsonValue) → Bool
  | [], [] => true
  | (name, left) :: lefts, (name', right) :: rights =>
    name == name' && same left right && sameFields lefts rights
  | _, _ => false

end

mutual

theorem same_iff : ∀ left right : JsonValue, same left right = true ↔ left = right
  | .null, right => by cases right <;> simp [same]
  | .boolean left, right => by cases right <;> simp [same]
  | .number left, right => by cases right <;> simp [same]
  | .string left, right => by cases right <;> simp [same]
  | .array left, right => by
    cases right with
    | array right => simp [same, sameItems_iff left right]
    | _ => simp [same]
  | .object left, right => by
    cases right with
    | object right => simp [same, sameFields_iff left right]
    | _ => simp [same]

theorem sameItems_iff : ∀ left right, sameItems left right = true ↔ left = right
  | [], right => by cases right <;> simp [sameItems]
  | left :: lefts, right => by
    cases right with
    | nil => simp [sameItems]
    | cons right rights =>
      simp [sameItems, same_iff left right, sameItems_iff lefts rights]

theorem sameFields_iff : ∀ left right, sameFields left right = true ↔ left = right
  | [], right => by cases right <;> simp [sameFields]
  | (name, left) :: lefts, right => by
    cases right with
    | nil => simp [sameFields]
    | cons head rights =>
      simp [sameFields, same_iff left head.2, sameFields_iff lefts rights, Prod.ext_iff]

end

instance : DecidableEq JsonValue := fun left right =>
  decidable_of_iff (same left right = true) (same_iff left right)

mutual

def text : JsonValue → String
  | .null => "null"
  | .boolean value => if value then "true" else "false"
  | .number text => text
  | .string value => JsonText.string value
  | .array items => JsonText.array (itemTexts items)
  | .object fields => JsonText.object (fieldTexts fields)

def itemTexts : List JsonValue → List String
  | [] => []
  | item :: rest => text item :: itemTexts rest

def fieldTexts : List (String × JsonValue) → List (String × String)
  | [] => []
  | (name, value) :: rest => (name, text value) :: fieldTexts rest

end

example : text (.object [("a", .array [.number "1", .null]), ("b", .string "x")])
    = "\x7b\"a\":[1,null],\"b\":\"x\"\x7d" := by decide

end JsonValue

end Dure.Library
