import QualityGate.Expression.Value
import QualityGate.Json.Basic

/-!
# Values of expressions and JSON

Documents enter expressions as values, and results leave them as JSON. Every JSON value has a value
that comes back as itself. Bytes, spans, instants and methods have no JSON form, and a double that
is not finite becomes `null`.
-/

namespace QualityGate.Expression.Value

/-! ## From JSON -/

/-- The value of a number. An integer beyond the signed ones is unsigned. -/
def ofNumber : JsonNumber → Value
  | .integer i => if i < 0x8000_0000_0000_0000 then int i else uint i.toNat
  | .double f => double f

mutual

/-- The value of a JSON value. -/
def ofJson : Json → Value
  | .null => null
  | .bool b => bool b
  | .number n => ofNumber n
  | .string s => text s
  | .array items => list (ofItems items)
  | .object members => map (ofMembers members)

/-- The values of the items of an array. -/
def ofItems : List Json → List Value
  | [] => []
  | x :: xs => ofJson x :: ofItems xs

/-- The entries for the members of an object. -/
def ofMembers : List (String × Json) → List (Key × Value)
  | [] => []
  | (k, x) :: rest => (.text k, ofJson x) :: ofMembers rest

end

/-! ## To JSON -/

/-- The JSON value of a double. -/
def doubleToJson (f : Float) : Json :=
  if f.isNaN || f.isInf then .null else .number (.double f)

mutual

/-- The JSON form of a value, if it has one. -/
def toJson? : Value → Option Json
  | null => some .null
  | bool b => some (.bool b)
  | int i => some (.number (.integer i))
  | uint n => some (.number (.integer n))
  | double f => some (doubleToJson f)
  | text s => some (.string s)
  | list items => (toItems? items).map Json.array
  | map entries => (toMembers? entries []).map Json.object
  | bytes _ | span _ | instant _ | method _ _ => none

/-- The JSON forms of elements, if all of them have one. -/
def toItems? : List Value → Option (List Json)
  | [] => some []
  | x :: xs => do
    let v ← toJson? x
    let vs ← toItems? xs
    return v :: vs

/-- Members with those for the given entries added. Keys become member names, and of two that become
the same name the later stands. -/
def toMembers? : List (Key × Value) → List (String × Json) → Option (List (String × Json))
  | [], members => some members
  | (k, x) :: rest, members => do
    let v ← toJson? x
    toMembers? rest (Json.insertMember k.render v members)

end

end QualityGate.Expression.Value
