import QualityGate.Condition.Reference
import QualityGate.Evaluator
import QualityGate.Path.Selection

/-!
# Judging by a condition

A condition is an expression with a reference token. Its token selects values from the subject, and
a name takes its place: `value`, the first of these values or `null`, or `values`, the list of all
of them, if the token stands before a call of `includes`. The condition holds if the result of the
expression is truthy.
-/

namespace QualityGate

namespace Condition

/-- The name of the first selected value. -/
def valueName : String := "value"

/-- The name of the list of all selected values. -/
def valuesName : String := "values"

/-- A condition with its token replaced by a name. -/
structure Prepared where
  reference : Reference
  expression : String

/-- The name that takes the place of a token. -/
def Reference.name (r : Reference) : String := if r.membership then valuesName else valueName

/-- Prepares a condition for evaluation. -/
def prepare (condition : String) : Except Failure Prepared :=
  match Reference.scan condition with
  | .ok r => .ok ⟨r, r.substitute condition r.name⟩
  | .error e => .error e

/-- Checks a condition without data: its token, its path, and the expression that it becomes. -/
def validate (condition : String) : Except Failure Unit := do
  let prepared ← prepare condition
  let _ ← Path.compile prepared.reference.path
  Evaluator.checkSyntax prepared.expression

/-- The variables of a condition for the values that its token selects. -/
def bindings (values : List Json) : List (String × Json) :=
  [(valueName, values.head?.getD .null), (valuesName, .array values)]

/-- The values of a subject that a path selects. What is neither an object nor an array is itself
the only value. -/
def valuesOf (subject : Json) (path : String) : Except Failure (List Json) :=
  if subject.isContainer then Path.select subject path else .ok [subject]

end Condition

/-- Whether a condition holds, and the values that it looked at. -/
structure Judgement where
  holds : Bool
  values : List Json

/-- Judges a subject by a condition. -/
def Evaluator.judge (e : Evaluator) (subject : Json) (condition : String) :
    Except Failure Judgement := do
  let prepared ← Condition.prepare condition
  let values ← Condition.valuesOf subject prepared.reference.path
  let result ← e.compute prepared.expression (Condition.bindings values)
  return ⟨result.isTruthy, values⟩

end QualityGate
