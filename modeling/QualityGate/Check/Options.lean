import QualityGate.Json.Record
import QualityGate.Status

/-!
# Check options

The author of a check may choose the status for each of its ends, and the path of what is kept from
the context of each reason. What is not chosen has a default: `GREEN` if the condition holds, and
`RED` in every other case.
-/

namespace QualityGate

/-- The choices of the author of a check. -/
structure CheckOptions where
  /-- The path of what is reported of a context. -/
  log : Option String
  /-- The status if the condition holds. -/
  onTrue : Option Status
  /-- The status if it does not. -/
  onFalse : Option Status
  /-- The status if there are only empty values. -/
  onEmpty : Option Status
  /-- The status if there is no value. -/
  onNotFound : Option Status
deriving DecidableEq

namespace CheckOptions

/-- The options without any choice. -/
def none : CheckOptions := ⟨.none, .none, .none, .none, .none⟩

/-- The status for the outcome of a condition. -/
def statusFor (o : CheckOptions) (holds : Bool) : Status :=
  if holds then o.onTrue.getD .green else o.onFalse.getD .red

/-- The status for empty values. -/
def emptyStatus (o : CheckOptions) : Status := o.onEmpty.getD .red

/-- The status for missing values. -/
def notFoundStatus (o : CheckOptions) : Status := o.onNotFound.getD .red

/-! ## As JSON -/

/-- The JSON form of a status, its label. -/
def statusJson (s : Status) : Json := .string s.label

/-- The status of a JSON value. -/
def readStatus? (v : Json) : Option Status := v.text?.map Status.mk

/-- The JSON form of options. Those not chosen are left out. -/
def toJson (o : CheckOptions) : Json :=
  .object (Json.optionalMember "log" (o.log.map Json.string)
    ++ Json.optionalMember "true" (o.onTrue.map statusJson)
    ++ Json.optionalMember "false" (o.onFalse.map statusJson)
    ++ Json.optionalMember "return_if_empty" (o.onEmpty.map statusJson)
    ++ Json.optionalMember "return_if_not_found" (o.onNotFound.map statusJson))

/-- The options of a JSON value. -/
def ofJson? (v : Json) : Option CheckOptions := do
  let members ← v.membersAmong? ["log", "true", "false", "return_if_empty", "return_if_not_found"]
  return {
    log := ← Json.optional? "log" Json.text? members
    onTrue := ← Json.optional? "true" readStatus? members
    onFalse := ← Json.optional? "false" readStatus? members
    onEmpty := ← Json.optional? "return_if_empty" readStatus? members
    onNotFound := ← Json.optional? "return_if_not_found" readStatus? members }

end CheckOptions

end QualityGate
