/-!
# JSON values

The data that gates judge. Numbers keep their kind: an integer is not the double of the same value.
The members of an object are kept in the order of their keys, which is the order of their UTF-8
bytes, so two objects with the same members are the same list.

Besides the type this module holds the three predicates by which gates tell presence from absence:
`Json.isTruthy`, `Json.isEmptyContainer` and `Json.isHollow`.
-/

namespace QualityGate

/-- A JSON number: an integer, or a double. A text with a point or an exponent is a double. -/
inductive JsonNumber where
  | integer (i : Int)
  | double (f : Float)

/-- A JSON value. -/
inductive Json where
  | null
  | bool (b : Bool)
  | number (n : JsonNumber)
  | string (s : String)
  | array (items : List Json)
  | object (members : List (String × Json))

namespace JsonNumber

/-- The double nearest to the number. -/
def toDouble : JsonNumber → Float
  | integer i => Float.ofInt i
  | double f => f

/-- Numbers are the same when they are of one kind and equal. -/
def beq : JsonNumber → JsonNumber → Bool
  | integer i, integer j => i == j
  | double f, double g => f == g
  | _, _ => false

/-- Whether the number is neither zero nor not-a-number. -/
def isTruthy : JsonNumber → Bool
  | integer i => i != 0
  | double f => f != 0.0 && !f.isNaN

end JsonNumber

namespace Json

mutual

/-- Structural equality, with numbers compared kind by kind. -/
def beq : Json → Json → Bool
  | null, null => true
  | bool a, bool b => a == b
  | number m, number n => m.beq n
  | string s, string t => s == t
  | array xs, array ys => beqItems xs ys
  | object xs, object ys => beqMembers xs ys
  | _, _ => false

/-- Equality of two lists of values, element by element. -/
def beqItems : List Json → List Json → Bool
  | [], [] => true
  | x :: xs, y :: ys => beq x y && beqItems xs ys
  | _, _ => false

/-- Equality of two lists of members, member by member. -/
def beqMembers : List (String × Json) → List (String × Json) → Bool
  | [], [] => true
  | (k, x) :: xs, (l, y) :: ys => k == l && beq x y && beqMembers xs ys
  | _, _ => false

end

instance : BEq Json := ⟨beq⟩

/-- The members with `key` set to `value`: in its place if the key is there, and otherwise in the
place that the order of keys gives it. -/
def insertMember (key : String) (value : Json) : List (String × Json) → List (String × Json)
  | [] => [(key, value)]
  | (k, v) :: rest =>
    if key < k then (key, value) :: (k, v) :: rest
    else if key = k then (key, value) :: rest
    else (k, v) :: insertMember key value rest

/-- The object with the given members. Of two members with one key the later stands. -/
def ofMembers (members : List (String × Json)) : Json :=
  object (members.foldl (fun acc m => insertMember m.1 m.2 acc) [])

/-- The value of a member of an object. Other values have no members. -/
def member? (key : String) : Json → Option Json
  | object members => members.lookup key
  | _ => none

/-- The elements of an array, or the values of the members of an object in the order of keys. -/
def children : Json → List Json
  | array items => items
  | object members => members.map (·.2)
  | _ => []

/-- Whether the value is an array or an object. -/
def isContainer : Json → Bool
  | array _ | object _ => true
  | _ => false

/-- Whether the value counts as present. The values `null`, `false`, zero, not-a-number and the
empty text are absent; every array and object is present, also an empty one. -/
def isTruthy : Json → Bool
  | null => false
  | bool b => b
  | number n => n.isTruthy
  | string s => !s.isEmpty
  | array _ | object _ => true

/-- Whether the value is an array or an object without elements. -/
def isEmptyContainer : Json → Bool
  | array items => items.isEmpty
  | object members => members.isEmpty
  | _ => false

/-- Whether the value is an empty container, or an array of empty containers only. -/
def isHollow : Json → Bool
  | array items => items.all isEmptyContainer
  | v => v.isEmptyContainer

end Json

end QualityGate
