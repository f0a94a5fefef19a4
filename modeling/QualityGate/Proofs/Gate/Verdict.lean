import QualityGate.Proofs.Gate.Entries
import QualityGate.Proofs.Path.Selection

/-!
# Verdicts

A verdict is always a signal. With a concatenation it is the status of that; without one it is the
worst signal among the entries, where a failed check counts as `RED` and a status that is no signal
counts for nothing. The worst signal is known by the signals that lie below it: those that lie below
every signal of an entry (`worstSignal_eq_iff`). So more entries can only make it worse
(`worstSignal_le`), and neither the order of the checks nor how often one is there matters
(`verdict_of_evaluate`).
-/

namespace QualityGate

/-! ## The order of signals -/

namespace Signal

variable {s t : Signal}

theorem eq_of_rank_eq : s.rank = t.rank → s = t := by cases s <;> cases t <;> decide

theorem eq_of_status_eq : s.status = t.status → s = t := by cases s <;> cases t <;> decide

theorem le_antisymm (below : s ≤ t) (above : t ≤ s) : s = t :=
  eq_of_rank_eq (Nat.le_antisymm below above)

theorem le_green (s : Signal) : s ≤ green := by cases s <;> decide

theorem le_min_iff (s t u : Signal) : s ≤ min t u ↔ s ≤ t ∧ s ≤ u := by
  cases s <;> cases t <;> cases u <;> decide

/-- What lies below the worst of some signals lies below all of them. -/
theorem le_worst?_iff (s : Signal) (signals : List Signal) :
    s ≤ (worst? signals).getD .green ↔ ∀ t ∈ signals, s ≤ t := by
  induction signals with
  | nil => simpa [worst?] using le_green s
  | cons t rest ih =>
      rw [worst?, List.forall_mem_cons, ← ih]
      cases worst? rest with
      | none => simp [le_green]
      | some u => exact le_min_iff s t u

/-- The worst of some signals is one of them, if there are any. -/
theorem mem_of_worst? {signals : List Signal} (worst : worst? signals = some s) : s ∈ signals := by
  induction signals generalizing s with
  | nil => cases worst
  | cons t rest ih =>
      rw [worst?] at worst
      cases others : worst? rest with
      | none =>
          rw [others] at worst
          cases worst
          exact List.mem_cons_self
      | some u =>
          rw [others] at worst
          cases worst
          have either : min t u = t ∨ min t u = u := by cases t <;> cases u <;> decide
          rcases either with same | same
          · rw [same]
            exact List.mem_cons_self
          · rw [same]
            exact .tail t (ih others)

theorem getD_worst?_eq_iff {signals : List Signal} :
    (worst? signals).getD .green = s ↔ (s = .green ∨ s ∈ signals) ∧ ∀ t ∈ signals, s ≤ t := by
  constructor
  · intro worst
    refine ⟨?_, (le_worst?_iff s signals).mp (worst ▸ Nat.le_refl _)⟩
    cases some : worst? signals with
    | none =>
        rw [some] at worst
        exact .inl worst.symm
    | some t =>
        rw [some] at worst
        exact .inr (worst ▸ mem_of_worst? some)
  · rintro ⟨reached, below⟩
    refine le_antisymm ?_ ((le_worst?_iff s signals).mpr below)
    rcases reached with rfl | member
    · exact le_green _
    · exact (le_worst?_iff _ signals).mp (Nat.le_refl _) s member

end Signal

theorem Status.signal?_eq_some_iff {status : Status} {s : Signal} :
    status.signal? = some s ↔ status = s.status := by
  constructor
  · obtain ⟨label⟩ := status
    intro signal
    simp only [signal?, Signal.ofLabel?] at signal
    split at signal
    · cases signal
      subst label
      rfl
    split at signal
    · cases signal
      subst label
      rfl
    split at signal
    · cases signal
      subst label
      rfl
    · cases signal
  · rintro rfl
    cases s <;> rfl

/-! ## The signals of entries -/

namespace CheckReport

/-- Whether an entry tells of a failure. -/
def Fails (entry : CheckReport) : Prop := ∃ text, entry.outcome = .failed text

/-- Whether an entry tells of a result with the given status. -/
def Has (entry : CheckReport) (status : Status) : Prop :=
  ∃ r, entry.outcome = .evaluated r ∧ r.status = status

variable {entry : CheckReport}

theorem signal?_eq_red_iff : entry.signal? = some .red ↔ entry.Fails ∨ entry.Has .red := by
  rw [signal?, Fails, Has]
  cases entry.outcome with
  | evaluated r => simpa [Status.red] using Status.signal?_eq_some_iff
  | failed text => simp

/-- Signals other than `RED` are those of results. -/
theorem signal?_eq_some_iff {s : Signal} (other : s ≠ .red) :
    entry.signal? = some s ↔ entry.Has s.status := by
  rw [signal?, Has]
  cases entry.outcome with
  | evaluated r => simpa using Status.signal?_eq_some_iff
  | failed text => simpa using Ne.symm other

end CheckReport

namespace Gate

/-- The worst signal among entries. -/
def worstSignal (reports : List CheckReport) : Signal :=
  (Signal.worst? (reports.filterMap CheckReport.signal?)).getD .green

variable {reports : List CheckReport}

theorem worstSignal_eq_iff {s : Signal} :
    worstSignal reports = s ↔ (s = .green ∨ ∃ entry ∈ reports, entry.signal? = some s) ∧
      ∀ entry ∈ reports, ∀ t, entry.signal? = some t → s ≤ t := by
  rw [worstSignal, Signal.getD_worst?_eq_iff, List.mem_filterMap, List.forall_mem_filterMap]

/-- More entries make the worst signal worse, if anything. -/
theorem worstSignal_le {reports' : List CheckReport}
    (more : ∀ entry ∈ reports, entry ∈ reports') : worstSignal reports' ≤ worstSignal reports := by
  obtain ⟨reached, -⟩ := worstSignal_eq_iff.mp (rfl : worstSignal reports = _)
  rcases reached with green | ⟨entry, member, signal⟩
  · exact green ▸ Signal.le_green _
  · exact (worstSignal_eq_iff.mp rfl).2 entry (more entry member) _ signal

/-! ## Verdicts without a concatenation -/

theorem worstStatus_eq_iff {s : Signal} :
    worstStatus reports = s.status ↔ worstSignal reports = s :=
  ⟨Signal.eq_of_status_eq, congrArg Signal.status⟩

theorem worstStatus_eq_red_iff :
    worstStatus reports = .red ↔ ∃ entry ∈ reports, entry.Fails ∨ entry.Has .red := by
  refine (worstStatus_eq_iff (s := .red)).trans (worstSignal_eq_iff.trans ?_)
  simp only [CheckReport.signal?_eq_red_iff]
  constructor
  · rintro ⟨reached, -⟩
    exact reached.resolve_left (by decide)
  · intro reached
    exact ⟨.inr reached, fun _ _ t _ => Nat.zero_le t.rank⟩

/-- The signals of entries are at least `YELLOW` if none of them fails or is `RED`. -/
theorem yellow_le_iff :
    (∀ entry ∈ reports, ∀ t, entry.signal? = some t → .yellow ≤ t) ↔
      ∀ entry ∈ reports, ¬ (entry.Fails ∨ entry.Has .red) := by
  refine forall₂_congr fun entry _ => ?_
  rw [← CheckReport.signal?_eq_red_iff]
  constructor
  · intro above red
    exact absurd (above .red red) (by decide)
  · intro other t signal
    cases t with
    | red => exact absurd signal other
    | yellow => decide
    | green => decide

theorem worstStatus_eq_yellow_iff :
    worstStatus reports = .yellow ↔
      (∀ entry ∈ reports, ¬ (entry.Fails ∨ entry.Has .red)) ∧
        ∃ entry ∈ reports, entry.Has .yellow := by
  refine (worstStatus_eq_iff (s := .yellow)).trans (worstSignal_eq_iff.trans ?_)
  rw [yellow_le_iff, and_comm]
  refine and_congr_right fun _ => ?_
  simp only [CheckReport.signal?_eq_some_iff (s := .yellow) (by decide)]
  exact or_iff_right (by decide)

theorem worstStatus_eq_green_iff :
    worstStatus reports = .green ↔
      ∀ entry ∈ reports, ¬ (entry.Fails ∨ entry.Has .red) ∧ ¬ entry.Has .yellow := by
  refine (worstStatus_eq_iff (s := .green)).trans (worstSignal_eq_iff.trans ?_)
  rw [and_iff_right (.inl rfl)]
  refine forall₂_congr fun entry _ => ?_
  have yellow : entry.signal? = some .yellow ↔ entry.Has .yellow :=
    CheckReport.signal?_eq_some_iff (by decide)
  rw [← CheckReport.signal?_eq_red_iff, ← yellow]
  constructor
  · intro above
    exact ⟨fun red => absurd (above .red red) (by decide),
      fun yellow => absurd (above .yellow yellow) (by decide)⟩
  · rintro ⟨noRed, noYellow⟩ t signal
    cases t with
    | red => exact absurd signal noRed
    | yellow => exact absurd signal noYellow
    | green => decide

/-! ## Verdicts -/

variable {g : Gate} {document : Json} {report : GateReport}

/-- The status of a concatenation is that of a signal. -/
theorem exists_signal_of_fold {e : Evaluator} {expression : String} {status : Status}
    (folds : e.fold expression = .ok status) : ∃ s : Signal, status = s.status := by
  obtain ⟨tolerant, -, folds⟩ := bind_eq_ok_iff.mp folds
  split at folds
  · obtain ⟨strict, -, folds⟩ := bind_eq_ok_iff.mp folds
    cases folds
    split
    · exact ⟨.green, rfl⟩
    · exact ⟨.yellow, rfl⟩
  · cases folds
    exact ⟨.red, rfl⟩

/-- What a concatenation adds to entries, and the verdict that follows from it. -/
theorem reportOf_of_concatenation {condition : String}
    (has : g.concatenation = some condition) (reported : g.reportOf reports = .ok report) :
    ∃ result, g.evaluator.concatenate condition (registryOf reports) = .ok result ∧
      report.concatenation = some result ∧ report.verdict = result.status := by
  obtain ⟨-, combined, verdict⟩ := reportOf_eq_ok_iff.mp reported
  rw [concatenationOf, has] at combined
  obtain ⟨result, comes, done⟩ := bind_eq_ok_iff.mp combined
  have result? : report.concatenation = some result := (Except.ok.inj done).symm
  rw [result?] at verdict
  exact ⟨result, comes, result?, verdict⟩

/-- Without a concatenation, entries are always reported. -/
theorem reportOf_of_none (none : g.concatenation = .none) (reports : List CheckReport) :
    g.reportOf reports = .ok ⟨reports, .none, worstStatus reports⟩ := by
  rw [reportOf, concatenationOf, none]
  rfl

/-- Without a concatenation, a report is made unless the gate gives up. -/
theorem evaluate_of_none [Readers] (none : g.concatenation = .none) :
    g.evaluate document = .ok report ↔
      (g.policy = .abort → ∀ check ∈ g.checks, ∃ r, g.resultOf document check = .ok r) ∧
        report = ⟨g.entries document, .none, worstStatus (g.entries document)⟩ := by
  rw [evaluate_eq_ok_iff, reportOf_of_none none, Except.ok.injEq, eq_comm (a := report)]

/-- The status of a result of a concatenation is that of a signal. -/
theorem exists_signal_of_concatenate {e : Evaluator} {condition : String} {registry : Registry}
    {result : ConcatenationResult} (combined : e.concatenate condition registry = .ok result) :
    ∃ s : Signal, result.status = s.status := by
  obtain ⟨expression, -, folded⟩ := bind_eq_ok_iff.mp combined
  obtain ⟨status, folds, done⟩ := bind_eq_ok_iff.mp folded
  cases done
  exact exists_signal_of_fold folds

/-- The verdict that a gate comes to for entries is a signal. -/
theorem exists_signal_of_reportOf (reported : g.reportOf reports = .ok report) :
    ∃ s : Signal, report.verdict = s.status := by
  cases has : g.concatenation with
  | none =>
      rw [reportOf_of_none has] at reported
      cases reported
      exact ⟨_, rfl⟩
  | some condition =>
      obtain ⟨result, combined, -, verdict⟩ := reportOf_of_concatenation has reported
      rw [verdict]
      exact exists_signal_of_concatenate combined

/-- **The verdict of a report is a signal**: the status of the concatenation, or else the worst
signal of the checks, where a failed check counts as `RED`. Then the order of the checks does not
matter, and with more checks it is no better. -/
theorem verdict_of_evaluate [Readers] (evaluated : g.evaluate document = .ok report) :
    report.verdict ∈ [Status.green, .yellow, .red] ∧
    (∀ condition, g.concatenation = some condition →
      ∃ result, g.evaluator.concatenate condition (registryOf report.checks) = .ok result ∧
        report.concatenation = some result ∧ report.verdict = result.status) ∧
    (g.concatenation = none →
      (report.verdict = .red ↔ ∃ entry ∈ report.checks, entry.Fails ∨ entry.Has .red) ∧
      (report.verdict = .yellow ↔
        (∀ entry ∈ report.checks, ¬ (entry.Fails ∨ entry.Has .red)) ∧
          ∃ entry ∈ report.checks, entry.Has .yellow) ∧
      (report.verdict = .green ↔
        ∀ entry ∈ report.checks, ¬ (entry.Fails ∨ entry.Has .red) ∧ ¬ entry.Has .yellow) ∧
      (∀ checks, checks.Perm g.checks →
        ∃ report', { g with checks := checks }.evaluate document = .ok report' ∧
          report'.verdict = report.verdict) ∧
      ∀ checks report', (∀ check ∈ g.checks, check ∈ checks) →
        { g with checks := checks }.evaluate document = .ok report' →
        ∃ s s' : Signal, report.verdict = s.status ∧ report'.verdict = s'.status ∧ s' ≤ s) := by
  obtain ⟨sound, reported⟩ := evaluate_eq_ok_iff.mp evaluated
  obtain ⟨same, -, -⟩ := reportOf_eq_ok_iff.mp reported
  rw [same]
  refine ⟨?_, fun condition has => reportOf_of_concatenation has reported, fun none => ?_⟩
  · have signal : ∃ s : Signal, report.verdict = s.status := by
      cases has : g.concatenation with
      | none =>
          obtain ⟨-, rfl⟩ := (evaluate_of_none has).mp evaluated
          exact ⟨_, rfl⟩
      | some condition =>
          obtain ⟨result, combined, -, verdict⟩ := reportOf_of_concatenation has reported
          rw [verdict]
          exact exists_signal_of_concatenate combined
    obtain ⟨s, verdict⟩ := signal
    rw [verdict]
    cases s <;> decide
  · obtain ⟨-, rfl⟩ := (evaluate_of_none none).mp evaluated
    have without (checks : List NamedCheck) :
        ({ g with checks := checks } : Gate).concatenation = .none := none
    refine ⟨worstStatus_eq_red_iff, worstStatus_eq_yellow_iff, worstStatus_eq_green_iff,
      fun checks permuted => ?_, fun checks report' more evaluated' => ?_⟩
    · refine ⟨_, (evaluate_of_none (without checks)).mpr ⟨?_, rfl⟩, ?_⟩
      · intro abort check member
        exact sound abort check (permuted.mem_iff.mp member)
      · have entries (entry : CheckReport) :
            entry ∈ entries { g with checks := checks } document ↔ entry ∈ g.entries document :=
          (permuted.map _).mem_iff
        exact worstStatus_eq_iff.mpr (Signal.le_antisymm
          (worstSignal_le fun entry => (entries entry).mpr)
          (worstSignal_le fun entry => (entries entry).mp))
    · obtain ⟨-, rfl⟩ := (evaluate_of_none (without checks)).mp evaluated'
      refine ⟨_, _, rfl, rfl, worstSignal_le fun entry member => ?_⟩
      obtain ⟨check, among, rfl⟩ := List.mem_map.mp member
      exact List.mem_map_of_mem (more check among)

/-- A failed check counts as `RED` beside a status of the author's, on either side of it. -/
theorem verdict_of_evaluate_failed_check :
    let lenient : NamedCheck := ⟨"lenient", ⟨"$", "$ == 1", { CheckOptions.none with
      onFalse := some ⟨"KNOWN"⟩ }⟩⟩
    let bad : NamedCheck := ⟨"bad", ⟨"$", "", .none⟩⟩
    let g : Gate := ⟨⟨false, 1, none⟩, [lenient, bad], none, .report⟩
    let document : Json := .number (.integer 2)
    ∃ report, g.evaluate document = .ok report ∧ report.verdict = .red ∧
      ∃ report', { g with checks := [bad, lenient] }.evaluate document = .ok report' ∧
        report'.verdict = .red := by
  intro lenient bad g document
  have evaluated : g.evaluate document =
      .ok ⟨g.entries document, .none, worstStatus (g.entries document)⟩ :=
    (evaluate_of_none rfl).mpr ⟨nofun, rfl⟩
  have fails : g.resultOf document bad = .error (.noReference "") := by
    rw [resultOf, Evaluator.check, Path.select_root]
    rfl
  obtain ⟨-, -, without⟩ := verdict_of_evaluate evaluated
  obtain ⟨red, -, -, permuted, -⟩ := without rfl
  have verdict : worstStatus (g.entries document) = .red := by
    have listed : bad.entry (g.resultOf document bad) ∈ g.entries document :=
      List.mem_map_of_mem (List.mem_of_getLast? rfl)
    exact red.mpr ⟨_, listed, .inl ⟨_, ((bad.entry_tells _).failed _).mpr ⟨_, fails, rfl⟩⟩⟩
  obtain ⟨report', evaluated', same⟩ := permuted [bad, lenient] (.swap lenient bad [])
  exact ⟨_, evaluated, verdict, report', evaluated', same.trans verdict⟩

end Gate

end QualityGate
