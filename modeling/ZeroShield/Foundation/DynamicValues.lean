import ZeroShield.Foundation.Json

/-!
# Dynamic values

What a dynamically typed language makes of a value which may have any type: whether it counts as
true, and what a loop over it runs through.
-/

namespace ZeroShield.Foundation.Json

/-- The value of a key, or null. -/
def get (fields : List (String × Json)) (key : String) : Json :=
  (fields.lookup key).getD .null

/-- Null, zero and empty values count as false. -/
def truthy : Json → Bool
  | .null => false
  | .bool value => value
  | .int value => value ≠ 0
  | .float value => value ≠ 0
  | .str text => text ≠ ""
  | .arr items => !items.isEmpty
  | .obj fields => !fields.isEmpty

/-- What a loop over a value runs through; numbers and truth values have no items. -/
def items : Json → Option (List Json)
  | .arr items => some items
  | .obj fields => some (fields.map fun field => .str field.1)
  | .str text => some (text.toList.map fun c => .str (String.singleton c))
  | _ => none

/-- What a loop over a value runs through, where a value which counts as false has no items. -/
def itemsOrNone (value : Json) : Option (List Json) :=
  if value.truthy then value.items else some []

/-- The fields of an object. -/
def fields? : Json → Option (List (String × Json))
  | .obj fields => some fields
  | _ => none

/-- The text of a text. -/
def text? : Json → Option String
  | .str text => some text
  | _ => none

end ZeroShield.Foundation.Json
