import Mathlib.Data.List.Induction
import Mathlib.Data.List.Nodup
import QualityGate.Proofs.Check.Failure
import QualityGate.Proofs.Concatenation.Names
import QualityGate.Proofs.Gate.Entries

/-!
# What a concatenation finds of the checks of a gate

The registry of a gate has no entry for a check that failed. If the checks have different names, it
finds under each name exactly what the check of that name came to (`find?_registryOf_entries`), so a
name is unknown to the concatenation exactly when its check failed. Failures that tell of a name
come from the concatenation and from nowhere else (`evaluate_eq_error_iff`).
-/

namespace QualityGate

variable {failure : Failure}

/-- The run of an expression over signals fails for no name, so names are a matter of the
expansion. -/
theorem Evaluator.concatenate_eq_error_iff {e : Evaluator} {text : String} {registry : Registry}
    (ofName : failure.IsOfName) :
    e.concatenate text registry = .error failure ↔
      Concatenation.FailsFirst registry (Concatenation.names text) failure := by
  rw [concatenate, bind_eq_error_iff, Concatenation.expand_eq_error_iff]
  refine or_iff_left ?_
  rintro ⟨expression, -, fails⟩
  have computes {bindings : List (String × Json)} :
      e.compute expression bindings ≠ .error failure :=
    fun fails => run_not_isOfName fails ofName
  rcases bind_eq_error_iff.mp (bind_pure_eq_error_iff.mp fails) with tolerant | ⟨_, -, folds⟩
  · exact computes tolerant
  · split at folds
    · exact computes (bind_pure_eq_error_iff.mp folds)
    · cases folds

namespace Gate

/-! ## Registries of entries -/

theorem registryOf_concat (reports : List CheckReport) (report : CheckReport) :
    registryOf (reports ++ [report]) = match report.outcome with
      | .evaluated r => (registryOf reports).insert report.name r
      | .failed _ => registryOf reports := by
  rw [registryOf, List.foldl_append]
  rfl

/-- Among entries of different names, each result is found under its own. -/
theorem find?_registryOf {reports : List CheckReport} (distinct : (reports.map (·.name)).Nodup)
    {name : String} {r : CheckResult} :
    (registryOf reports).find? name = some r ↔
      ∃ report ∈ reports, report.name = name ∧ report.outcome = .evaluated r := by
  induction reports using List.reverseRecOn with
  | nil => exact iff_of_false nofun (by simp)
  | append_singleton reports last ih =>
      rw [List.map_append, List.map_singleton, ← List.concat_eq_append, List.nodup_concat]
        at distinct
      obtain ⟨new, distinct⟩ := distinct
      have others : (∃ report ∈ reports ++ [last], report.name = name ∧
            report.outcome = .evaluated r) ↔
          (registryOf reports).find? name = some r ∨
            last.name = name ∧ last.outcome = .evaluated r := by
        rw [ih distinct]
        simp [or_and_right, exists_or]
      rw [others, registryOf_concat]
      split
      case h_1 result evaluated =>
          rw [Registry.find?_insert, evaluated]
          split
          case isTrue own =>
              subst own
              -- No earlier entry has the name of the last one.
              have missing : (registryOf reports).find? last.name ≠ some r := fun found => by
                obtain ⟨report, member, same, -⟩ := (ih distinct).mp found
                exact new (List.mem_map.mpr ⟨report, member, same⟩)
              simp [missing]
          case isFalse other => simp [Ne.symm other]
      case h_2 text failed => simp [failed]

variable [Readers] {g : Gate} {document : Json} {check : NamedCheck}

theorem map_name_entries (g : Gate) (document : Json) :
    (g.entries document).map (·.name) = g.checks.map (·.name) := by
  rw [entries, List.map_map]
  rfl

/-- Under the name of a check there is its result, if it came to one. -/
theorem find?_registryOf_entries (distinct : (g.checks.map (·.name)).Nodup)
    (member : check ∈ g.checks) :
    (registryOf (g.entries document)).find? check.name =
      (g.resultOf document check).toOption := by
  have found (r : CheckResult) : (registryOf (g.entries document)).find? check.name = some r ↔
      g.resultOf document check = .ok r := by
    rw [find?_registryOf (map_name_entries g document ▸ distinct), entries]
    simp only [List.mem_map, exists_exists_and_eq_and]
    constructor
    · rintro ⟨other, among, name, evaluated⟩
      obtain rfl : other = check := List.inj_on_of_nodup_map distinct among member name
      exact ((other.entry_tells _).evaluated r).mp evaluated
    · intro result
      exact ⟨check, member, rfl, ((check.entry_tells _).evaluated r).mpr result⟩
  refine Option.ext fun r => ?_
  rw [found]
  cases g.resultOf document check <;> simp [Except.toOption]

/-! ## Signals of checks -/

/-- The name of a check has a signal exactly when the check came to a status that is one. -/
theorem signalOf_eq_ok_iff (distinct : (g.checks.map (·.name)).Nodup) (member : check ∈ g.checks)
    {s : Signal} :
    Concatenation.signalOf (registryOf (g.entries document)) check.name = .ok s ↔
      ∃ r, g.resultOf document check = .ok r ∧ r.status.signal? = some s := by
  rw [Concatenation.signalOf_eq_ok_iff, find?_registryOf_entries distinct member]
  refine exists_congr fun r => and_congr_left fun _ => ?_
  cases g.resultOf document check <;> simp [Except.toOption]

/-- The name of a check is unknown exactly when the check failed. -/
theorem signalOf_eq_unknownCheck_iff (distinct : (g.checks.map (·.name)).Nodup)
    (member : check ∈ g.checks) {name : String} :
    Concatenation.signalOf (registryOf (g.entries document)) check.name =
        .error (.unknownCheck name) ↔
      name = check.name ∧ ∃ failure, g.resultOf document check = .error failure := by
  rw [Concatenation.signalOf_eq_unknownCheck_iff, find?_registryOf_entries distinct member]
  refine and_congr_right fun _ => ?_
  cases g.resultOf document check <;> simp [Except.toOption]

/-! ## Failures of gates -/

/-- A gate whose entries cannot be made gives up with the failure of a check. -/
theorem reportsOf_fails {policy : FailurePolicy}
    {ends : List (NamedCheck × Except Failure CheckResult)}
    (fails : reportsOf policy ends = .error failure) : ∃ p ∈ ends, p.2 = .error failure := by
  induction ends with
  | nil => cases fails
  | cons p rest ih =>
      rcases bind_eq_error_iff.mp fails with own | ⟨_, -, fails⟩
      · refine ⟨p, List.mem_cons_self, ?_⟩
        unfold outcomeOf at own
        split at own
        · cases own
        · split at own
          · cases own
            assumption
          · cases own
      · rcases bind_eq_error_iff.mp fails with others | ⟨_, -, fails⟩
        · obtain ⟨q, member, failed⟩ := ih others
          exact ⟨q, List.mem_cons_of_mem p member, failed⟩
        · cases fails

/-- A gate fails for a name exactly when its entries are made and its concatenation fails at that
name first. -/
theorem evaluate_eq_error_iff (ofName : failure.IsOfName) :
    g.evaluate document = .error failure ↔
      (g.policy = .abort → ∀ check ∈ g.checks, ∃ r, g.resultOf document check = .ok r) ∧
        ∃ text, g.concatenation = some text ∧
          Concatenation.FailsFirst (registryOf (g.entries document)) (Concatenation.names text)
            failure := by
  have made (reports : List CheckReport) : reportsOf g.policy (g.ends document) = .ok reports ↔
      (g.policy = .abort → ∀ check ∈ g.checks, ∃ r, g.resultOf document check = .ok r) ∧
        reports = g.entries document := by
    rw [reportsOf_eq_ok_iff, ends, entries, List.forall_mem_map, List.map_map]
    rfl
  have combines (reports : List CheckReport) : g.reportOf reports = .error failure ↔
      ∃ text, g.concatenation = some text ∧
        Concatenation.FailsFirst (registryOf reports) (Concatenation.names text) failure := by
    refine bind_pure_eq_error_iff.trans ?_
    rw [concatenationOf]
    cases g.concatenation with
    | none => simp
    | some text =>
        refine (bind_pure_eq_error_iff.trans (Evaluator.concatenate_eq_error_iff ofName)).trans ?_
        simp
  rw [evaluate_eq_bind, bind_eq_error_iff]
  constructor
  · rintro (fails | ⟨reports, ok, fails⟩)
    · obtain ⟨p, member, failed⟩ := reportsOf_fails fails
      obtain ⟨check, -, rfl⟩ := List.mem_map.mp member
      exact absurd ofName (Evaluator.check_fails failed)
    · obtain ⟨sound, rfl⟩ := (made reports).mp ok
      exact ⟨sound, (combines _).mp fails⟩
  · rintro ⟨sound, fails⟩
    exact .inr ⟨_, (made _).mpr ⟨sound, rfl⟩, (combines _).mpr fails⟩

end Gate

end QualityGate
