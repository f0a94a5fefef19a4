import QualityGate.Path.Basic
import QualityGate.Pattern.Footprint

/-!
# What paths select

`Path.query` gives the values that a path selects from a document, in document order: a segment
treats the values reached so far one after the other, and a descendant segment applies its selectors
to a value before it goes down into the children. A value may be selected more than once.

Tests compare numbers as doubles. An operand that selects nothing equals another such operand, and
is neither less nor greater than anything.
-/

namespace QualityGate.Path

/-! ## Picking children -/

/-- The place that an index means in a list of the given length; a negative one counts from the
end. -/
def place? (length : Nat) (i : Int) : Option Nat :=
  if 0 ≤ i then some i.toNat
  else if 0 ≤ (length : Int) + i then some ((length : Int) + i).toNat
  else none

/-- The element of an array at an index. -/
def elementAt (i : Int) : Json → Option Json
  | .array items => (place? items.length i).bind (items[·]?)
  | _ => none

/-- A bound of a slice, counted from the end if negative, kept between two limits. -/
def clamp (length : Nat) (i low high : Int) : Int :=
  min (max (if 0 ≤ i then i else (length : Int) + i) low) high

/-- The places that a slice means in a list of the given length, in the order of its step. -/
def slicePlaces (length : Nat) (start stop : Option Int) (step : Int) : List Nat :=
  let n : Int := length
  if 0 < step then
    let first := clamp length (start.getD 0) 0 n
    let last := clamp length (stop.getD n) 0 n
    (List.range ((last - first + step - 1) / step).toNat).map fun (k : Nat) =>
      (first + k * step).toNat
  else if step < 0 then
    let first := clamp length (start.getD (n - 1)) (-1) (n - 1)
    let last := clamp length (stop.getD (-n - 1)) (-1) (n - 1)
    (List.range ((first - last - step - 1) / -step).toNat).map fun (k : Nat) =>
      (first + k * step).toNat
  else []

mutual

/-- The results of `pick` on a value and on everything below it, a value before its children. -/
def everywhere (pick : Json → List Json) : Json → List Json
  | .array items => pick (.array items) ++ everywhereItems pick items
  | .object members => pick (.object members) ++ everywhereMembers pick members
  | v => pick v

/-- The results of `pick` on the elements of an array and below. -/
def everywhereItems (pick : Json → List Json) : List Json → List Json
  | [] => []
  | x :: xs => everywhere pick x ++ everywhereItems pick xs

/-- The results of `pick` on the members of an object and below. -/
def everywhereMembers (pick : Json → List Json) : List (String × Json) → List Json
  | [] => []
  | (_, x) :: rest => everywhere pick x ++ everywhereMembers pick rest

end

/-! ## Comparisons -/

/-- Whether two values are equal in a test. -/
def sameValue : Json → Json → Bool
  | .number m, .number n => m.toDouble == n.toDouble
  | v, w => v == w

/-- Whether a number is less than another, or a text comes before another. -/
def lessValue : Json → Json → Bool
  | .number m, .number n => m.toDouble < n.toDouble
  | .string s, .string t => s < t
  | _, _ => false

/-- Whether two values are of one kind. -/
def sameKind : Json → Json → Bool
  | .null, .null | .bool _, .bool _ | .number _, .number _ | .string _, .string _
  | .array _, .array _ | .object _, .object _ => true
  | _, _ => false

/-- Whether two operands, each present or not, are equal. -/
def sameOperand : Option Json → Option Json → Bool
  | some v, some w => sameValue v w
  | none, none => true
  | _, _ => false

/-- Whether two operands are present, of one kind and satisfy the order `order`. -/
def ordered (order : Json → Json → Bool) : Option Json → Option Json → Bool
  | some v, some w => sameKind v w && order v w
  | _, _ => false

/-- Whether a comparison holds between two operands. -/
def Comparison.holds (op : Comparison) (left right : Option Json) : Bool :=
  match op with
  | equal => sameOperand left right
  | notEqual => !sameOperand left right
  | less => ordered lessValue left right
  | lessEqual => ordered (fun v w => lessValue v w || sameValue v w) left right
  | greater => ordered (fun v w => !lessValue v w && !sameValue v w) left right
  | greaterEqual => ordered (fun v w => !lessValue v w) left right

/-- The number of characters, elements or members of a value. -/
def lengthOf : Json → Option Json
  | .string s => some (.number (.integer s.length))
  | .array items => some (.number (.integer items.length))
  | .object members => some (.number (.integer members.length))
  | _ => none

/-- A pattern as tests use it: in a group, between the ends of the text if it has to match the whole
of it, and with carriage returns as ends of lines. -/
def testedPattern (whole : Bool) (pattern : List Char) : List Char :=
  if whole then "(?R)^(".toList ++ pattern ++ ")$".toList
  else "(?R)(".toList ++ pattern ++ ")".toList

/-- Whether two operands are a text and a pattern that it matches. -/
def matchesPattern (whole : Bool) : Option Json → Option Json → Bool
  | some (.string text), some (.string pattern) =>
    match Pattern.parse? (testedPattern whole pattern.toList) with
    | some p => p.matchesSome text.toList
    | none => false
  | _, _ => false

/-- The value to which steps lead. In single steps a negative index leads nowhere. -/
def follow (v : Json) : List Step → Option Json
  | [] => some v
  | .name key :: rest => (v.member? key).bind (follow · rest)
  | .index i :: rest => if i < 0 then none else (elementAt i v).bind (follow · rest)

/-- The value at which a path inside a test starts. -/
def Origin.value (document current : Json) : Origin → Json
  | .document => document
  | .current => current

/-! ## Selection -/

mutual

/-- The children that a selector picks from a value. -/
def Selector.pick (document : Json) : Selector → Json → List Json
  | .name key, v => (v.member? key).toList
  | .wildcard, v => v.children
  | .index i, v => (elementAt i v).toList
  | .slice start stop step, v => match v with
    | .array items => (slicePlaces items.length start stop step).filterMap (items[·]?)
    | _ => []
  | .filter test, v => v.children.filter fun child => test.holds document child

/-- The children that selectors pick from a value, selector by selector. -/
def pickAll (document : Json) : List Selector → Json → List Json
  | [], _ => []
  | s :: rest, v => s.pick document v ++ pickAll document rest v

/-- The values that a segment reaches from given values. -/
def Segment.step (document : Json) : Segment → List Json → List Json
  | .child selectors, vs => vs.flatMap fun v => pickAll document selectors v
  | .descendant selectors, vs => vs.flatMap fun v => everywhere (pickAll document selectors) v

/-- The values that segments reach from given values. -/
def walk (document : Json) : List Segment → List Json → List Json
  | [], vs => vs
  | s :: rest, vs => walk document rest (s.step document vs)

/-- The values that a path selects from a value as the argument of a function. -/
def argument (document : Json) (segments : List Segment) (v : Json) : List Json :=
  match steps? segments with
  | some steps => (follow v steps).toList
  | none => walk document segments [v]

/-- Whether a test holds for a value. -/
def Test.holds (document : Json) : Test → Json → Bool
  | .or left right, v => left.holds document v || right.holds document v
  | .and left right, v => left.holds document v && right.holds document v
  | .not test, v => !test.holds document v
  | .exists origin segments, v => !(walk document segments [origin.value document v]).isEmpty
  | .compare op left right, v => op.holds (left.value? document v) (right.value? document v)
  | .matching whole text pattern, v =>
    matchesPattern whole (text.value? document v) (pattern.value? document v)

/-- The value of an operand in a test of a value, if it has one. -/
def Operand.value? (document : Json) : Operand → Json → Option Json
  | .literal value, _ => some value
  | .singular origin steps, v => follow (origin.value document v) steps
  | .length operand, v => (operand.value? document v).bind lengthOf
  | .count origin segments, v =>
    some (.number (.integer (argument document segments (origin.value document v)).length))
  | .value origin segments, v =>
    match argument document segments (origin.value document v) with
    | [w] => some w
    | _ => none

end


/-- The values that a path selects from a document, in document order. -/
def query (p : Path) (document : Json) : List Json := walk document p.segments [document]

end QualityGate.Path
