import QualityGate.Check.Wire
import QualityGate.Gate
import QualityGate.Json.Printer

/-!
# Reports as JSON documents

The members of a report stand in the order of its fields, and what a check came to stands beside its
name. Parts that are absent have no members.
-/

namespace QualityGate.Report

/-- The JSON form of the entry of a check. -/
def checkJson (c : CheckReport) : Json :=
  .object (("name", .string c.name) :: match c.outcome with
    | .evaluated result => result.members
    | .failed failure => [("error", .string failure)])

/-- The JSON form of the status of a concatenation. -/
def concatenationJson (c : ConcatenationResult) : Json :=
  .object [("condition", .string c.condition), ("status", .string c.status.label)]

/-- The JSON form of a report. -/
def reportJson (r : GateReport) : Json :=
  .object ([("checks", .array (r.checks.map checkJson))]
    ++ Json.optionalMember "concatenation" (r.concatenation.map concatenationJson)
    ++ [("verdict", .string r.verdict.label)])

/-- The text of a report as a document. -/
def document (r : GateReport) : String := (reportJson r).pretty ++ "\n"

end QualityGate.Report
