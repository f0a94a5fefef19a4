import QualityGate.Check.Result

/-!
# Results of checks as JSON

The form in which results are reported and read back. A package without a context has no member for
it; one whose context is `null` has that member.
-/

namespace QualityGate

namespace ReasonPackage

/-- The JSON form of a package. -/
def toJson (p : ReasonPackage) : Json :=
  .object (("reasons", p.reasons) :: Json.optionalMember "context" p.context)

/-- The package of a JSON value. -/
def ofJson? (v : Json) : Option ReasonPackage := do
  let members ← v.members?
  return {
    reasons := ← Json.field? "reasons" some members
    context := ← Json.optional? "context" some members }

/-- The packages of JSON values. -/
def listOfJson? : List Json → Option (List ReasonPackage)
  | [] => some []
  | v :: rest => do
    let package ← ofJson? v
    let others ← listOfJson? rest
    return package :: others

end ReasonPackage

namespace QuantifierOutcome

/-- The JSON form of the outcome of a quantifier. -/
def toJson (o : QuantifierOutcome) : Json :=
  .object (("result", .bool o.result) :: Json.optionalMember "reasonPackage"
    (o.packages.map fun packages => .array (packages.map ReasonPackage.toJson)))

end QuantifierOutcome

namespace CheckResult

/-- The members of the JSON form of a result. -/
def members (r : CheckResult) : List (String × Json) :=
  [("reference", .string r.reference), ("condition", .string r.condition),
    ("status", .string r.status.label), ("bool", .bool r.holds),
    ("reasonPackages", .array (r.packages.map ReasonPackage.toJson))]

/-- The JSON form of a result. -/
def toJson (r : CheckResult) : Json := .object r.members

/-- The result of a JSON value. -/
def ofJson? (v : Json) : Option CheckResult := do
  let members ← v.members?
  let packages ← Json.field? "reasonPackages" Json.items? members
  return {
    reference := ← Json.field? "reference" Json.text? members
    condition := ← Json.field? "condition" Json.text? members
    status := ⟨← Json.field? "status" Json.text? members⟩
    holds := ← Json.field? "bool" Json.bool? members
    packages := ← ReasonPackage.listOfJson? packages }

end CheckResult

end QualityGate
