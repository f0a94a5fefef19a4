import QualityGate.Check.Definition
import QualityGate.Quantifier.Condition

/-!
# Results of checks

`Evaluator.check` runs a check on a document. If its path selects nothing, or a single value without
content, there is nothing to judge, and the options give the status. Otherwise the condition
decides: a quantified one judges the list of all selected values, a plain one the only value, or the
array of all of them.

Of the context of each reason only the part is kept that the options ask for.
-/

namespace QualityGate

/-- The result of a check. -/
structure CheckResult where
  reference : String
  condition : String
  status : Status
  holds : Bool
  packages : List ReasonPackage

/-- What the outcome of a condition leaves to be decided by the options: the status, if reasons show
that there was nothing to judge. -/
def QuantifierOutcome.emptiness? (o : QuantifierOutcome) (found : Bool) (options : CheckOptions) :
    Option Status :=
  match o.packages with
  | none => some (if found then .green else options.emptyStatus)
  | some packages => match packages.head?.map ReasonPackage.reasons with
    | some (.array []) => some options.notFoundStatus
    | some (.array [only]) => if only.isEmptyContainer then some options.emptyStatus else none
    | _ => none

namespace ReasonPackage

/-- The package with what is kept of its context: the first value that the path selects from it, if
it is an object or an array. -/
def trim (package : ReasonPackage) (log : Option String) : Except Failure ReasonPackage :=
  match package.context, log with
  | some context, some path =>
    if context.isContainer then do return ⟨package.reasons, ← Path.selectFirst context path⟩
    else return ⟨package.reasons, none⟩
  | _, _ => return ⟨package.reasons, none⟩

/-- Packages with what is kept of their contexts. -/
def trimAll (log : Option String) : List ReasonPackage → Except Failure (List ReasonPackage)
  | [] => return []
  | package :: rest => do
    let trimmed ← package.trim log
    let others ← trimAll log rest
    return trimmed :: others

end ReasonPackage

/-- What a condition came to: whether it holds, the packages, and the status if it is settled
already. -/
structure Finding where
  holds : Bool
  settled : Option Status
  packages : List ReasonPackage

/-- The subject of a plain condition: the only value, or the array of all of them. -/
def subjectOf : List Json → Json
  | [only] => only
  | values => .array values

namespace Evaluator

variable [Readers]

/-- Judges selected values by a condition of either kind. -/
def judgeSelected (e : Evaluator) (condition : String) (values : List Json)
    (options : CheckOptions) : Except Failure Finding :=
  if Quantifier.isQuantified condition then do
    let outcome ← e.judgeQuantified values condition
    return ⟨outcome.result, outcome.emptiness? (!values.isEmpty) options, outcome.packages.getD []⟩
  else do
    let subject := subjectOf values
    let j ← e.judge subject condition
    return ⟨j.holds, .none, [⟨.array j.values, some subject⟩]⟩

/-- The status that selected values settle before the condition is judged. A filter that selects
nothing settles nothing. -/
def settledBefore? (d : CheckDefinition) (values : List Json) : Option Status :=
  match values with
  | [] => if Path.mentionsFilter d.reference then .none else some d.options.notFoundStatus
  | [only] => if only.isHollow then some d.options.emptyStatus else .none
  | _ => .none

/-- Runs a check on a document. -/
def check (e : Evaluator) (d : CheckDefinition) (document : Json) : Except Failure CheckResult := do
  let values ← Path.select document d.reference
  match settledBefore? d values with
  | some status => return ⟨d.reference, d.condition, status, false, []⟩
  | .none =>
    let finding ← e.judgeSelected d.condition values d.options
    let packages ← ReasonPackage.trimAll d.options.log finding.packages
    return ⟨d.reference, d.condition,
      finding.settled.getD (d.options.statusFor finding.holds), finding.holds, packages⟩

end Evaluator

end QualityGate
