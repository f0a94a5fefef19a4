import QualityGate.Concatenation

/-!
# Gates

A gate runs a list of checks on one document and comes to a verdict: the status of its
concatenation, or the worst signal of its checks. Checks do not depend on each other, and the report
has one entry for each of them, in the order of their definitions. What happens if a check cannot be
judged is a matter of policy: the gate gives up, or it reports the failure in the place of a result.
-/

namespace QualityGate

/-- What a gate does if a check cannot be judged. -/
inductive FailurePolicy where
  /-- Give up. -/
  | abort
  /-- Report the failure and go on. -/
  | report
deriving DecidableEq

namespace FailurePolicy

/-- The name of a policy. -/
def name : FailurePolicy → String
  | abort => "abort"
  | report => "report"

/-- The policy of a name. -/
def ofName? (name : String) : Option FailurePolicy :=
  if name = "abort" then some abort else if name = "report" then some report else none

end FailurePolicy

/-- What became of a check. -/
inductive CheckOutcome where
  | evaluated (result : CheckResult)
  | failed (failure : String)

/-- The entry of a check in a report. -/
structure CheckReport where
  name : String
  outcome : CheckOutcome

/-- The signal that a check contributes to the verdict, if any. A failure counts as `RED`. -/
def CheckReport.signal? (r : CheckReport) : Option Signal :=
  match r.outcome with
  | .evaluated result => result.status.signal?
  | .failed _ => some .red

/-- What a gate reports. -/
structure GateReport where
  checks : List CheckReport
  concatenation : Option ConcatenationResult
  verdict : Status

/-- The entries of checks that could not be judged. -/
def GateReport.failures (r : GateReport) : List CheckReport :=
  r.checks.filter fun c => match c.outcome with
    | .failed _ => true
    | .evaluated _ => false

/-- A list of checks, and how they are run and combined. -/
structure Gate where
  evaluator : Evaluator
  checks : List NamedCheck
  concatenation : Option String
  policy : FailurePolicy

namespace Gate

variable [Readers]

/-- The outcome that a policy makes of what a check came to. -/
def outcomeOf (policy : FailurePolicy) : Except Failure CheckResult → Except Failure CheckOutcome
  | .ok result => .ok (.evaluated result)
  | .error failure => match policy with
    | .abort => .error failure
    | .report => .ok (.failed failure.message)

/-- The entries for checks and what they came to. Under the policy of giving up the first failure is
that of the gate. -/
def reportsOf (policy : FailurePolicy) :
    List (NamedCheck × Except Failure CheckResult) → Except Failure (List CheckReport)
  | [] => return []
  | (check, result) :: rest => do
    let outcome ← outcomeOf policy result
    let others ← reportsOf policy rest
    return ⟨check.name, outcome⟩ :: others

/-- The results among entries by name. Of two results of a name the later counts. -/
def registryOf (reports : List CheckReport) : Registry :=
  reports.foldl (fun registry report => match report.outcome with
    | .evaluated result => registry.insert report.name result
    | .failed _ => registry) .empty

/-- The worst signal among entries, as a status. Without signals it is `GREEN`. -/
def worstStatus (reports : List CheckReport) : Status :=
  ((Signal.worst? (reports.filterMap CheckReport.signal?)).getD .green).status

/-- The status of the concatenation, if the gate has one. -/
def concatenationOf (g : Gate) (reports : List CheckReport) :
    Except Failure (Option ConcatenationResult) :=
  match g.concatenation with
  | some condition => do return some (← g.evaluator.concatenate condition (registryOf reports))
  | none => .ok none

/-- The report with the given entries: its verdict is the status of the concatenation, or else the
worst signal among the entries. -/
def reportOf (g : Gate) (reports : List CheckReport) : Except Failure GateReport := do
  let concatenation ← g.concatenationOf reports
  let verdict := match concatenation with
    | some result => result.status
    | none => worstStatus reports
  return ⟨reports, concatenation, verdict⟩

/-- Combines what the checks came to into a report. -/
def conclude (g : Gate) (results : List (Except Failure CheckResult)) :
    Except Failure GateReport := do
  let reports ← reportsOf g.policy (g.checks.zip results)
  g.reportOf reports

/-- Runs the checks of a gate on a document. -/
def evaluate (g : Gate) (document : Json) : Except Failure GateReport :=
  g.conclude (g.checks.map fun check => g.evaluator.check check.definition document)

end Gate

end QualityGate
