import QualityGate.Check.Options
import QualityGate.Condition.Judgement
import QualityGate.Quantifier.Call

/-!
# Definitions of checks

A check selects values of a document by the path of its reference and judges them by its condition.
`CheckDefinition.validate` finds mistakes without a document: every path has to be one, and every
condition has to be readable once its token is replaced.
-/

namespace QualityGate

/-- What a check looks at, and how it judges. -/
structure CheckDefinition where
  reference : String
  condition : String
  options : CheckOptions
deriving DecidableEq

/-- A check with the name that formulas and reports call it by. -/
structure NamedCheck where
  name : String
  definition : CheckDefinition
deriving DecidableEq

namespace CheckDefinition

/-- Checks conditions one after the other. -/
def validateAll : List String → Except Failure Unit
  | [] => return ()
  | condition :: rest => do
    Condition.validate condition
    validateAll rest

/-- Checks a definition without a document. Of a quantified condition the element conditions in
quotes are checked as well. -/
def validate (d : CheckDefinition) : Except Failure Unit := do
  let _ ← Path.compile d.reference
  match d.options.log with
  | some log =>
    let _ ← Path.compile log
  | none => pure ()
  if Quantifier.isQuantified d.condition then
    Evaluator.checkSyntax d.condition
    validateAll (Quantifier.elementConditions d.condition)
  else Condition.validate d.condition

/-! ## As JSON -/

/-- The definition of a JSON value. -/
def ofJson? (v : Json) : Option CheckDefinition := do
  let members ← v.membersAmong? ["reference", "condition", "options"]
  return {
    reference := ← Json.field? "reference" Json.text? members
    condition := ← Json.field? "condition" Json.text? members
    options := ← Json.fieldOr? "options" .none CheckOptions.ofJson? members }

end CheckDefinition

namespace NamedCheck

/-- The JSON form of a named check. -/
def toJson (c : NamedCheck) : Json :=
  .object [("name", .string c.name), ("reference", .string c.definition.reference),
    ("condition", .string c.definition.condition), ("options", c.definition.options.toJson)]

/-- The named check of a JSON value. -/
def ofJson? (v : Json) : Option NamedCheck := do
  let members ← v.membersAmong? ["name", "reference", "condition", "options"]
  let name ← Json.field? "name" Json.text? members
  let reference ← Json.field? "reference" Json.text? members
  let condition ← Json.field? "condition" Json.text? members
  let options ← Json.fieldOr? "options" .none CheckOptions.ofJson? members
  return ⟨name, ⟨reference, condition, options⟩⟩

end NamedCheck

end QualityGate
