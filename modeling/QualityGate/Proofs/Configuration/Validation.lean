import QualityGate.Configuration.Basic

/-!
# What valid configurations have in common

A configuration is valid if it leaves time for expressions, none of its checks has a problem beside
those before it, and its concatenation has none beside all of them (`validate_eq_ok_iff`). Then its
checks have names, no two of them the same one, and its concatenation has no other names.
-/

namespace QualityGate.Configuration

variable [Readers] {c : Configuration} {names : List String} {check : NamedCheck}
  {checks : List NamedCheck}

theorem validate_eq_ok_iff_problem? : c.validate = .ok () ↔ c.problem? = none := by
  rw [validate]
  cases c.problem? <;> simp

/-- A configuration is valid exactly when no part of it has a problem. -/
theorem validate_eq_ok_iff :
    c.validate = .ok () ↔ c.timeout ≠ 0 ∧ checksProblem? [] c.checks = none ∧
      c.concatenation.bind (concatenationProblem? (c.checks.map (·.name))) = none := by
  rw [validate_eq_ok_iff_problem?, problem?]
  by_cases time : c.timeout = 0
  · simp [time]
  · rw [if_neg time]
    cases checksProblem? [] c.checks <;> simp [time]

/-- A check without a problem has a name, and one that is not among the given ones. -/
theorem name_of_checkProblem? (valid : checkProblem? names check = none) :
    isName check.name = true ∧ check.name ∉ names := by
  unfold checkProblem? at valid
  split at valid
  case isTrue => cases valid
  case isFalse named =>
      split at valid
      case isTrue => cases valid
      case isFalse new => exact ⟨by simpa using named, by simpa using new⟩

/-- Checks without problems have names, no two of them the same one, and none of those that are
given. -/
theorem names_of_checksProblem? (valid : checksProblem? names checks = none) :
    (∀ check ∈ checks, isName check.name = true ∧ check.name ∉ names) ∧
      (checks.map (·.name)).Nodup := by
  induction checks generalizing names with
  | nil => simp
  | cons check checks ih =>
      rw [checksProblem?] at valid
      split at valid
      case h_1 => cases valid
      case h_2 own =>
          obtain ⟨others, distinct⟩ := ih valid
          refine ⟨List.forall_mem_cons.mpr ⟨name_of_checkProblem? own, fun other member => ?_⟩, ?_⟩
          · exact ⟨(others other member).1, fun given => (others other member).2 (.tail _ given)⟩
          · rw [List.map_cons, List.nodup_cons]
            refine ⟨fun again => ?_, distinct⟩
            obtain ⟨other, member, same⟩ := List.mem_map.mp again
            exact (others other member).2 (same ▸ List.mem_cons_self)

/-- The checks of a valid configuration have names, and its concatenation has no other names. -/
theorem names_of_validate (valid : c.validate = .ok ()) :
    (∀ check ∈ c.checks, isName check.name = true) ∧
      ∀ text ∈ c.concatenation, ∀ name ∈ Concatenation.names text,
        ∃ check ∈ c.checks, check.name = name := by
  obtain ⟨-, checks, concatenation⟩ := validate_eq_ok_iff.mp valid
  refine ⟨fun check member => ((names_of_checksProblem? checks).1 check member).1,
    fun text has name member => ?_⟩
  rw [Option.mem_def.mp has] at concatenation
  have known := List.find?_eq_none.mp (Option.map_eq_none_iff.mp concatenation) name member
  simpa using known

/-- No two checks of a valid configuration have the same name. -/
theorem nodup_of_validate (valid : c.validate = .ok ()) : (c.checks.map (·.name)).Nodup :=
  (names_of_checksProblem? (validate_eq_ok_iff.mp valid).2.1).2

end QualityGate.Configuration
