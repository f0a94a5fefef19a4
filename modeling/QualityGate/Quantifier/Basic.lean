import QualityGate.Condition.Judgement

/-!
# Quantifiers

A quantifier judges the items of a list one after the other by an element condition: `all`, `any`,
`one` and `none`. An item that is not truthy is absent: it fails `all` and `one` without being
judged, and `any` and `none` pass over it.

What was found is reported in reason packages: the values that a condition looked at, and the item
itself. Unless the search is exhaustive, `all`, `one` and `none` stop at the first item that settles
the result; `any` always does. No item is looked at after the deadline.
-/

namespace QualityGate

/-- Why an item counts as it does: the values that were looked at, and where they come from. -/
structure ReasonPackage where
  reasons : Json
  context : Option Json

/-- One of the four quantifiers. -/
inductive Quantifier where
  | all
  | any
  | one
  | none
deriving DecidableEq

/-- The result of a quantifier. It may have nothing to report, which is not the same as an empty
list of packages. -/
structure QuantifierOutcome where
  result : Bool
  packages : Option (List ReasonPackage)

namespace Quantifier

/-- The name of a quantifier. -/
def name : Quantifier → String
  | all => "all"
  | any => "any"
  | one => "one"
  | none => "none"

/-- The quantifier of a name. -/
def ofName? (name : String) : Option Quantifier :=
  if name = "all" then some all
  else if name = "any" then some any
  else if name = "one" then some one
  else if name = "none" then some none
  else Option.none

end Quantifier

namespace QuantifierOutcome

/-- The outcome that holds if there is nothing to report. -/
def ofOffences (packages : List ReasonPackage) : QuantifierOutcome :=
  if packages.isEmpty then ⟨true, none⟩ else ⟨false, some packages⟩

end QuantifierOutcome

namespace Evaluator

/-- Judges a present item. Returns whether the condition holds, and the package for it. -/
def judgeItem (e : Evaluator) (condition : String) (item : Json) :
    Except Failure (Bool × ReasonPackage) := do
  e.ensureTimeLeft condition
  let j ← e.judge item condition
  return (j.holds, ⟨.array j.values, some item⟩)

/-- Judges any item. An absent one fails, and is itself the reason. -/
def judgeOrRefuse (e : Evaluator) (condition : String) (item : Json) :
    Except Failure (Bool × ReasonPackage) :=
  if item.isTruthy then e.judgeItem condition item
  else do
    e.ensureTimeLeft condition
    return (false, ⟨item, some item⟩)

/-- The packages of the items of which the test says `wanted`, up to the first one unless the search
is exhaustive. -/
def collect (exhaustive : Bool) (wanted : Bool)
    (test : Json → Except Failure (Bool × ReasonPackage)) :
    List Json → Except Failure (List ReasonPackage)
  | [] => return []
  | item :: rest => do
    let (holds, package) ← test item
    if holds == wanted then
      if exhaustive then return package :: (← collect exhaustive wanted test rest)
      else return [package]
    else collect exhaustive wanted test rest

/-- Judges items up to the first for which the test holds. Returns whether there is one, and the
packages of all items judged. -/
def search (test : Json → Except Failure (Bool × ReasonPackage)) :
    List Json → Except Failure (Bool × List ReasonPackage)
  | [] => return (false, [])
  | item :: rest => do
    let (holds, package) ← test item
    if holds then return (true, [package])
    else
      let (found, packages) ← search test rest
      return (found, package :: packages)

/-- The packages of the items that pass and of those that fail, added to the ones already there. The
search ends at a second item that passes, unless it is exhaustive. -/
def divide (exhaustive : Bool) (test : Json → Except Failure (Bool × ReasonPackage))
    (valid invalid : List ReasonPackage) :
    List Json → Except Failure (List ReasonPackage × List ReasonPackage)
  | [] => return (valid, invalid)
  | item :: rest => do
    let (holds, package) ← test item
    if holds then
      if valid.isEmpty || exhaustive then
        divide exhaustive test (valid ++ [package]) invalid rest
      else return (valid ++ [package], invalid)
    else divide exhaustive test valid (invalid ++ [package]) rest

/-- Whether every item is present and satisfies the condition. The items that do not are
reported. -/
def all (e : Evaluator) (items : List Json) (condition : String) :
    Except Failure QuantifierOutcome := do
  let failures ← collect e.exhaustive false (e.judgeOrRefuse condition) items
  return .ofOffences failures

/-- Whether some present item satisfies the condition. All items that were judged are reported. -/
def any (e : Evaluator) (items : List Json) (condition : String) :
    Except Failure QuantifierOutcome := do
  let (found, examined) ← search (e.judgeItem condition) (items.filter Json.isTruthy)
  return ⟨found, some examined⟩

/-- Whether exactly one item is present and satisfies the condition. The items that do are reported,
or, if there is none, all the others. -/
def one (e : Evaluator) (items : List Json) (condition : String) :
    Except Failure QuantifierOutcome := do
  let (valid, invalid) ← divide e.exhaustive (e.judgeOrRefuse condition) [] [] items
  match valid with
  | [] => return ⟨false, some invalid⟩
  | [package] => return ⟨true, some [package]⟩
  | packages => return ⟨false, some packages⟩

/-- Whether no present item satisfies the condition. The items that do are reported. -/
def none (e : Evaluator) (items : List Json) (condition : String) :
    Except Failure QuantifierOutcome := do
  let matching ← collect e.exhaustive true (e.judgeItem condition) (items.filter Json.isTruthy)
  return .ofOffences matching

/-- Applies a quantifier to the items of a list. -/
def quantify (e : Evaluator) (q : Quantifier) (items : List Json) (condition : String) :
    Except Failure QuantifierOutcome :=
  match q with
  | .all => e.all items condition
  | .any => e.any items condition
  | .one => e.one items condition
  | .none => e.none items condition

end Evaluator

end QualityGate
