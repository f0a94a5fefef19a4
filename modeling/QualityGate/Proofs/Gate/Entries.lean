import Mathlib.Data.List.Forall2
import QualityGate.Gate
import QualityGate.Proofs.Failure

/-!
# The entries of a gate's report

Each check has one entry, in the order of the definitions, and what it tells depends on that check
alone (`CheckReport.Tells`). If entries are made at all, they are the same whatever the policy is;
the policy decides whether they are (`reportsOf_eq_ok_iff`). Under the policy of reporting failures
they always are, and under that of giving up the first failing check, first in the order of the
definitions, is the failure of the gate (`reportsOf_abort_of_first`).

A report consists of these entries and of what `Gate.reportOf` makes of them
(`evaluate_eq_ok_iff`).
-/

namespace QualityGate

/-- What an entry tells of a check: the name, the result if the check came to one, or else the
wording of its failure. -/
structure CheckReport.Tells [Readers] (entry : CheckReport) (check : NamedCheck)
    (result : Except Failure CheckResult) : Prop where
  name : entry.name = check.name
  evaluated : ∀ r, entry.outcome = .evaluated r ↔ result = .ok r
  failed : ∀ text, entry.outcome = .failed text ↔
    ∃ failure, result = .error failure ∧ failure.message = text

/-- The entry of a check that came to the given end. -/
def NamedCheck.entry [Readers] (check : NamedCheck) (result : Except Failure CheckResult) :
    CheckReport :=
  ⟨check.name, match result with
    | .ok r => .evaluated r
    | .error failure => .failed failure.message⟩

theorem NamedCheck.entry_tells [Readers] (check : NamedCheck)
    (result : Except Failure CheckResult) :
    (check.entry result).Tells check result := by
  cases result with
  | ok r => exact ⟨rfl, fun s => by simp [entry], fun text => by simp [entry]⟩
  | error failure => exact ⟨rfl, fun s => by simp [entry], fun text => by simp [entry]⟩

namespace Gate

/-! ## Making entries -/

section Making

variable [Readers] {policy : FailurePolicy} {check : NamedCheck} {failure : Failure}
  {ends : List (NamedCheck × Except Failure CheckResult)}

/-- The first failure, in the order of the checks, is that of the gate that gives up. -/
theorem reportsOf_abort_of_first {before after : List (NamedCheck × Except Failure CheckResult)}
    (earlier : ∀ p ∈ before, ∃ r, p.2 = .ok r) :
    reportsOf .abort (before ++ (check, .error failure) :: after) = .error failure := by
  induction before with
  | nil => rfl
  | cons p before ih =>
      obtain ⟨⟨r, ok⟩, earlier⟩ := List.forall_mem_cons.mp earlier
      simp only [List.cons_append, reportsOf, ok, outcomeOf, ok_bind, ih earlier]
      rfl

/-- The outcome of a check is made unless it failed and the gate gives up. -/
theorem outcomeOf_eq_ok_iff (check : NamedCheck) {result : Except Failure CheckResult}
    {outcome : CheckOutcome} :
    outcomeOf policy result = .ok outcome ↔
      (policy = .abort → ∃ r, result = .ok r) ∧ outcome = (check.entry result).outcome := by
  cases result with
  | ok r => simp [outcomeOf, NamedCheck.entry, eq_comm]
  | error failure => cases policy <;> simp [outcomeOf, NamedCheck.entry, eq_comm]

/-- Entries are made for all checks, unless one failed and the gate gives up. -/
theorem reportsOf_eq_ok_iff {reports : List CheckReport} :
    reportsOf policy ends = .ok reports ↔
      (policy = .abort → ∀ p ∈ ends, ∃ r, p.2 = .ok r) ∧
        reports = ends.map fun p => p.1.entry p.2 := by
  induction ends generalizing reports with
  | nil => exact ⟨fun made => by cases made; simp, fun ⟨_, made⟩ => by rw [made]; rfl⟩
  | cons p rest ih =>
      rw [reportsOf]
      constructor
      · intro made
        obtain ⟨outcome, own, behind⟩ := bind_eq_ok_iff.mp made
        obtain ⟨others, rest, done⟩ := bind_eq_ok_iff.mp behind
        obtain ⟨ok, rfl⟩ := (outcomeOf_eq_ok_iff p.1).mp own
        obtain ⟨all, rfl⟩ := ih.mp rest
        cases done
        exact ⟨fun abort => List.forall_mem_cons.mpr ⟨ok abort, all abort⟩, rfl⟩
      · rintro ⟨all, rfl⟩
        have own : outcomeOf policy p.2 = .ok (p.1.entry p.2).outcome :=
          (outcomeOf_eq_ok_iff p.1).mpr
            ⟨fun abort => (List.forall_mem_cons.mp (all abort)).1, rfl⟩
        have others : reportsOf policy rest = .ok (rest.map fun p => p.1.entry p.2) :=
          ih.mpr ⟨fun abort => (List.forall_mem_cons.mp (all abort)).2, rfl⟩
        rw [own, ok_bind, others]
        rfl

end Making

/-! ## Reports -/

variable {g : Gate} {document : Json} {report : GateReport}

/-- What a check of a gate comes to by itself. -/
def resultOf [Readers] (g : Gate) (document : Json) (check : NamedCheck) :
    Except Failure CheckResult :=
  g.evaluator.check check.definition document

/-- The checks of a gate, each with what it comes to. -/
def ends [Readers] (g : Gate) (document : Json) : List (NamedCheck × Except Failure CheckResult) :=
  g.checks.map fun check => (check, g.resultOf document check)

/-- The entries of the checks of a gate. -/
def entries [Readers] (g : Gate) (document : Json) : List CheckReport :=
  g.checks.map fun check => check.entry (g.resultOf document check)

theorem evaluate_eq_bind [Readers] (g : Gate) (document : Json) :
    g.evaluate document = reportsOf g.policy (g.ends document) >>= g.reportOf := by
  rw [evaluate, conclude, ends, List.map_prod_left_eq_zip]
  rfl

/-- The entries of a report are those of the checks, which all came to results if the gate would
have given up. -/
theorem evaluate_eq_ok_iff [Readers] :
    g.evaluate document = .ok report ↔
      (g.policy = .abort → ∀ check ∈ g.checks, ∃ r, g.resultOf document check = .ok r) ∧
        g.reportOf (g.entries document) = .ok report := by
  have made (reports : List CheckReport) : reportsOf g.policy (g.ends document) = .ok reports ↔
      (g.policy = .abort → ∀ check ∈ g.checks, ∃ r, g.resultOf document check = .ok r) ∧
        reports = g.entries document := by
    rw [reportsOf_eq_ok_iff, ends, entries, List.forall_mem_map, List.map_map]
    rfl
  rw [evaluate_eq_bind, bind_eq_ok_iff]
  simp only [made, and_assoc, exists_and_left, exists_eq_left]

/-- What a report has besides its entries comes from them. -/
theorem reportOf_eq_ok_iff {reports : List CheckReport} :
    g.reportOf reports = .ok report ↔
      report.checks = reports ∧ g.concatenationOf reports = .ok report.concatenation ∧
        report.verdict = match report.concatenation with
          | some result => result.status
          | none => worstStatus reports := by
  rw [reportOf, bind_eq_ok_iff]
  constructor
  · rintro ⟨concatenation, combined, done⟩
    cases done
    exact ⟨rfl, combined, rfl⟩
  · obtain ⟨checks, concatenation, verdict⟩ := report
    dsimp only
    rintro ⟨rfl, combined, rfl⟩
    exact ⟨concatenation, combined, rfl⟩

/-- Every entry of a report tells of its check, and of nothing else. -/
theorem entries_tell [Readers] (g : Gate) (document : Json) :
    List.Forall₂ (fun check entry => entry.Tells check (g.resultOf document check)) g.checks
      (g.entries document) := by
  rw [entries, List.forall₂_map_right_iff, List.forall₂_same]
  exact fun check _ => check.entry_tells _

end Gate

end QualityGate
