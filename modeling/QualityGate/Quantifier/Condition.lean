import QualityGate.Quantifier.Basic
import QualityGate.Quantifier.Call

/-!
# Quantified conditions

A quantified condition is an expression that calls quantifiers as functions of a list and of the
text of an element condition. The selected values are its list `ref`. The result of the expression
decides, and the packages are those of the last call that it made. A failure inside of a call is the
failure of the whole.

All of it, element conditions included, has to end within one timeout.
-/

namespace QualityGate

open Expression (Value Function Run)

/-- The name of the list of selected values. -/
def Quantifier.listName : String := "ref"

/-- What a call of a quantifier came to. -/
abbrev QuantifierCall := Except Failure QuantifierOutcome

namespace Evaluator

variable [Readers]

/-- The value of a call of a quantifier for the expression that makes it. -/
def callResult (q : Quantifier) : QuantifierCall → Except Expression.Fault Value
  | .ok outcome => .ok (.bool outcome.result)
  | .error failure => .error (.failedFunction q.name failure.message)

/-- A quantifier as a function of expressions: of a list, and of the text of an element condition.
It takes only the arguments in parentheses. -/
def quantifierFunction (e : Evaluator) (q : Quantifier) : Function QuantifierCall :=
  fun _ args => do
  let list ← Expression.argument args 0
  let text ← Expression.argument args 1
  let condition ← Expression.wantText text
  match list.toJson? with
  | some (.array items) =>
    let call := e.quantify q items condition
    .record call (callResult q call)
  | _ => .fail (.failedFunction q.name "expects a list as its first argument")

/-- The quantifiers as functions of expressions. -/
def quantifierFunctions (e : Evaluator) (name : String) : Option (Function QuantifierCall) :=
  (Quantifier.ofName? name).map e.quantifierFunction

/-- The first failure among calls. -/
def firstFailure? : List QuantifierCall → Option Failure
  | [] => .none
  | .error failure :: _ => some failure
  | .ok _ :: rest => firstFailure? rest

/-- The packages of the last call that came to an outcome. -/
def lastPackages (calls : List QuantifierCall) : Option (List ReasonPackage) :=
  (calls.filterMap Except.toOption).getLast?.bind (·.packages)

/-- Judges the items of a list by a quantified condition. -/
def judgeQuantified (e : Evaluator) (items : List Json) (condition : String) :
    Except Failure QuantifierOutcome :=
  let bounded := e.withDeadline e.timeout
  let (calls, result) := bounded.run condition [(Quantifier.listName, .array items)]
    bounded.quantifierFunctions
  match firstFailure? calls with
  | some failure => .error failure
  | .none => match result with
    | .ok value => .ok ⟨value.isTruthy, lastPackages calls⟩
    | .error failure => .error failure

end Evaluator

end QualityGate
