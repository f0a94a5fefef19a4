import QualityGate.Json.Basic

/-!
# Records as JSON objects

Records are written as objects with a member for each field, in the order of the fields, and read
back from objects in any order. An optional field may be absent; where it is read, `null` counts as
absence.
-/

namespace QualityGate.Json

/-- The members of an object that has none but those of the given names. -/
def membersAmong? (names : List String) : Json → Option (List (String × Json))
  | object members => if members.all fun m => names.contains m.1 then some members else none
  | _ => none

/-- The members of an object. -/
def members? : Json → Option (List (String × Json))
  | object members => some members
  | _ => none

/-- The text in a value. -/
def text? : Json → Option String
  | string s => some s
  | _ => none

/-- The truth value in a value. -/
def bool? : Json → Option Bool
  | bool b => some b
  | _ => none

/-- The items of an array. -/
def items? : Json → Option (List Json)
  | array items => some items
  | _ => none

/-- A field that has to be there. -/
def field? {α : Type} (name : String) (read : Json → Option α) (members : List (String × Json)) :
    Option α :=
  (members.lookup name).bind read

/-- A field with a value of its own for when it is absent. -/
def fieldOr? {α : Type} (name : String) (default : α) (read : Json → Option α)
    (members : List (String × Json)) : Option α :=
  match members.lookup name with
  | some v => read v
  | none => some default

/-- A field that may be absent or `null`. -/
def optional? {α : Type} (name : String) (read : Json → Option α) (members : List (String × Json)) :
    Option (Option α) :=
  match members.lookup name with
  | some null | none => some none
  | some v => (read v).map some

/-- The member for a field that may be absent. -/
def optionalMember (name : String) : Option Json → List (String × Json)
  | some v => [(name, v)]
  | none => []

end QualityGate.Json
