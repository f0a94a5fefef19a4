import QualityGate.Check.Result
import QualityGate.Proofs.Path.Selection
import QualityGate.Proofs.Quantifier.Condition

/-!
# The status of a check that fails

The options assign three statuses to failures: for a condition that does not hold, for empty and for
missing values. A check whose condition does not hold gets one of these, with one exception: where a
quantified condition finds values but leaves no package to look at, the status is `GREEN`, whatever
the condition came to. It leaves none if it calls no quantifier, as when `&&` skips the call, or if
the last call is of `all` or `none` and holds, as below a negation (`Evaluator.PassesOver`).

`status_of_fails` says that this exception is the only one.
-/

namespace QualityGate

/-- The statuses that options assign to failures. -/
def CheckOptions.failureStatuses (o : CheckOptions) : List Status :=
  [o.statusFor false, o.emptyStatus, o.notFoundStatus]

namespace Evaluator

variable {e : Evaluator} {d : CheckDefinition} {document : Json} {condition : String}
  {values : List Json} {options : CheckOptions} {finding : Finding}

/-- Whether values are judged by a quantified condition without a package to show for it: values
were found, and the last call of a quantifier, if there is any, is silent. -/
def Unreported [Readers] (e : Evaluator) (condition : String) (values : List Json) : Prop :=
  Quantifier.isQuantified condition = true ∧ values ≠ [] ∧
    ∀ last ∈ (e.quantifiedRun values condition).1.getLast?,
      (e.withDeadline e.timeout).Silent last

/-- Whether a check passes over what its condition comes to. -/
def PassesOver [Readers] (e : Evaluator) (d : CheckDefinition) (document : Json) : Prop :=
  ∃ values, Path.select document d.reference = .ok values ∧ settledBefore? d values = .none ∧
    e.Unreported d.condition values

/-- Values settle nothing but failures before they are judged. -/
theorem settledBefore?_mem {status : Status} (settled : settledBefore? d values = some status) :
    status ∈ d.options.failureStatuses := by
  match values with
  | [] =>
      obtain ⟨-, missing⟩ := Option.ite_none_left_eq_some.mp settled
      cases missing
      simp [CheckOptions.failureStatuses]
  | [only] =>
      obtain ⟨-, empty⟩ := Option.ite_none_right_eq_some.mp settled
      cases empty
      simp [CheckOptions.failureStatuses]
  | _ :: _ :: _ => cases settled

/-! ## Quantified conditions -/

/-- A quantified condition leaves no packages exactly when it makes no call, or the last is
silent. -/
theorem packages_judgeQuantified_eq_none_iff [Readers] {o : QuantifierOutcome}
    (judged : e.judgeQuantified values condition = .ok o) :
    o.packages = .none ↔ ∀ last ∈ (e.quantifiedRun values condition).1.getLast?,
      (e.withDeadline e.timeout).Silent last := by
  obtain ⟨answered, value, -, rfl⟩ := judgeQuantified_eq_ok_iff.mp judged
  exact lastPackages_eq_none_iff (fun _ member => eq_quantify_of_mem_quantifiedRun member) answered

/-- Without packages, values that were found settle `GREEN`. -/
theorem settled_of_unreported [Readers] (unreported : e.Unreported condition values)
    (judged : e.judgeSelected condition values options = .ok finding) :
    finding.settled = some .green := by
  obtain ⟨quantified, found, silent⟩ := unreported
  rw [judgeSelected, if_pos quantified] at judged
  obtain ⟨o, outcome, judged⟩ := bind_eq_ok_iff.mp judged
  cases judged
  have none := (packages_judgeQuantified_eq_none_iff outcome).mpr silent
  simp [QuantifierOutcome.emptiness?, none, found]

/-- Without packages and without values that were found, or with packages that show that there was
nothing to judge, a failure is settled. -/
theorem emptiness?_mem {o : QuantifierOutcome} {found : Bool} {status : Status}
    (reported : o.packages = .none → found = false)
    (settled : o.emptiness? found options = some status) : status ∈ options.failureStatuses := by
  unfold QuantifierOutcome.emptiness? at settled
  split at settled
  case h_1 none =>
      cases settled
      simp [reported none, CheckOptions.failureStatuses]
  case h_2 packages _ =>
      split at settled
      case h_1 =>
          cases settled
          simp [CheckOptions.failureStatuses]
      case h_2 =>
          obtain ⟨-, empty⟩ := Option.ite_none_right_eq_some.mp settled
          cases empty
          simp [CheckOptions.failureStatuses]
      case h_3 => cases settled

/-! ## Checks -/

/-- Values that do not satisfy a condition lead to a status for failures, unless they go
unreported. -/
theorem judgeSelected_status_mem [Readers] (reported : ¬ e.Unreported condition values)
    (judged : e.judgeSelected condition values options = .ok finding)
    (fails : finding.holds = false) :
    finding.settled.getD (options.statusFor finding.holds) ∈ options.failureStatuses := by
  cases settled : finding.settled with
  | none =>
      rw [fails]
      exact List.mem_cons_self
  | some status =>
      unfold judgeSelected at judged
      split at judged
      case isFalse =>
          obtain ⟨j, -, judged⟩ := bind_eq_ok_iff.mp judged
          cases judged
          cases settled
      case isTrue quantified =>
          obtain ⟨o, outcome, judged⟩ := bind_eq_ok_iff.mp judged
          cases judged
          refine emptiness?_mem (fun none => ?_) settled
          have silent := (packages_judgeQuantified_eq_none_iff outcome).mp none
          by_contra found
          exact reported ⟨quantified, by simpa using found, silent⟩

/-- A check that passes over what its condition comes to has the status `GREEN`. -/
theorem status_of_passesOver [Readers] {r : CheckResult} (ok : e.check d document = .ok r)
    (passes : e.PassesOver d document) : r.status = .green := by
  obtain ⟨values, selected, unsettled, unreported⟩ := passes
  rw [check, selected, ok_bind, unsettled] at ok
  obtain ⟨finding, judged, ok⟩ := bind_eq_ok_iff.mp ok
  obtain ⟨packages, -, ok⟩ := bind_eq_ok_iff.mp ok
  cases ok
  rw [settled_of_unreported unreported judged]
  rfl

/-- A check that does not, and whose condition fails, has a status for failures. -/
theorem status_mem_of_fails [Readers] {r : CheckResult} (ok : e.check d document = .ok r)
    (fails : r.holds = false) (reports : ¬ e.PassesOver d document) :
    r.status ∈ d.options.failureStatuses := by
  obtain ⟨values, selected, ok⟩ := bind_eq_ok_iff.mp ok
  cases settled : settledBefore? d values with
  | some status =>
      simp only [settled] at ok
      cases ok
      exact settledBefore?_mem settled
  | none =>
      simp only [settled] at ok
      obtain ⟨finding, judged, ok⟩ := bind_eq_ok_iff.mp ok
      obtain ⟨packages, -, ok⟩ := bind_eq_ok_iff.mp ok
      cases ok
      refine judgeSelected_status_mem (fun unreported => ?_) judged fails
      exact reports ⟨values, selected, settled, unreported⟩

/-- **A check that fails has a status for failures exactly when it does not pass over that.** Where
it passes over what its condition came to, the status is `GREEN`, so it is a status for failures
only if the options make `GREEN` one. -/
theorem status_of_fails [Readers] {r : CheckResult} (ok : e.check d document = .ok r)
    (fails : r.holds = false) :
    (r.status ∈ d.options.failureStatuses ↔
        Status.green ∈ d.options.failureStatuses ∨ ¬ e.PassesOver d document) ∧
      (e.PassesOver d document → r.status = .green) := by
  refine ⟨⟨fun member => ?_, fun either => ?_⟩, status_of_passesOver ok⟩
  · refine or_iff_not_imp_right.mpr fun passes => ?_
    exact status_of_passesOver ok (not_not.mp passes) ▸ member
  · by_cases passes : e.PassesOver d document
    · rw [status_of_passesOver ok passes]
      exact either.resolve_right (not_not.mpr passes)
    · exact status_mem_of_fails ok fails passes

/-- A failing `all` behind `||` reports its item, so the check has a status for failures. -/
theorem status_of_fails_reported :
    let d : CheckDefinition := ⟨"$", "size(ref) > 1 || all(ref, '$ == 2')", .none⟩
    let document : Json := .number (.integer 1)
    ∃ r, Evaluator.check ⟨false, 1, .none⟩ d document = .ok r ∧ r.holds = false ∧
      r.status ∈ d.options.failureStatuses ∧
      ¬ Evaluator.PassesOver ⟨false, 1, .none⟩ d document := by
  intro d document
  have red : (Evaluator.check ⟨false, 1, .none⟩ d document).toOption.map
      (fun r => (r.holds, r.status)) = some (false, .red) := by
    rw [Evaluator.check, Path.select_root]
    decide +kernel
  obtain ⟨r, ok, seen⟩ := exists_ok_of_map_toOption red
  obtain ⟨fails, status⟩ := Prod.mk.inj seen
  have member : r.status ∈ d.options.failureStatuses := status ▸ by decide
  have reports := ((status_of_fails ok fails).1.mp member).resolve_left (by decide)
  exact ⟨r, ok, fails, member, reports⟩

/-- Where `&&` skips the only call, nothing is reported, and a check that fails is `GREEN`. -/
theorem status_of_skipped_call :
    let d : CheckDefinition := ⟨"$", "size(ref) > 1 && all(ref, '$ == 1')", .none⟩
    let document : Json := .number (.integer 1)
    ∃ r, Evaluator.check ⟨false, 1, .none⟩ d document = .ok r ∧ r.holds = false ∧
      r.status = .green ∧ r.status ∉ d.options.failureStatuses := by
  intro d document
  have green : (Evaluator.check ⟨false, 1, .none⟩ d document).toOption.map
      (fun r => (r.holds, r.status)) = some (false, .green) := by
    rw [Evaluator.check, Path.select_root]
    decide +kernel
  obtain ⟨r, ok, seen⟩ := exists_ok_of_map_toOption green
  obtain ⟨fails, status⟩ := Prod.mk.inj seen
  exact ⟨r, ok, fails, status, status ▸ by decide⟩

end Evaluator

end QualityGate
