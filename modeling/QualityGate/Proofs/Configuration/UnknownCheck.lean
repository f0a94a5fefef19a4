import QualityGate.Proofs.Configuration.Validation
import QualityGate.Proofs.Gate.Registry
import QualityGate.Proofs.Path.Selection

/-!
# Unknown checks of valid configurations

Validation knows the names of all checks, evaluation only those of the checks that came to results.
So the gate of a valid configuration can still miss a check, but only one that failed: then its
policy is to report failures, and the check is the first in the concatenation that failed
(`evaluate_eq_unknownCheck_iff`).
-/

namespace QualityGate.Configuration

variable {c : Configuration}

/-- **The gate of a valid configuration misses no check but one that failed.** No two of its checks
have the same name, and it fails for an unknown check exactly if its policy is to report failures
and the concatenation names, from left to right, first checks that come to signals and then one that
fails. So under the policy of giving up it never does. -/
theorem evaluate_eq_unknownCheck_iff [Readers] (valid : c.validate = .ok ()) (document : Json) :
    (c.checks.map (·.name)).Nodup ∧
    ∀ name, c.gate.evaluate document = .error (.unknownCheck name) ↔
      c.policy = .report ∧ ∃ text before after, c.concatenation = some text ∧
        Concatenation.names text = before ++ name :: after ∧
        (∀ earlier ∈ before, ∃ check ∈ c.checks, check.name = earlier ∧
          ∃ r s, c.gate.evaluator.check check.definition document = .ok r ∧
            r.status.signal? = some s) ∧
        ∃ check ∈ c.checks, check.name = name ∧
          ∃ failure, c.gate.evaluator.check check.definition document = .error failure := by
  have distinct : (c.gate.checks.map (·.name)).Nodup := nodup_of_validate valid
  obtain ⟨-, known⟩ := names_of_validate valid
  refine ⟨distinct, fun name => (Gate.evaluate_eq_error_iff (.unknown name)).trans ?_⟩
  constructor
  · rintro ⟨sound, text, has, before, first, after, parts, earlier, fails⟩
    have inText (other : String) (member : other ∈ before ++ first :: after) :
        ∃ check ∈ c.checks, check.name = other := known text has other (parts ▸ member)
    obtain ⟨check, member, rfl⟩ := inText first (by simp)
    obtain ⟨rfl, failure, failed⟩ :=
      (Gate.signalOf_eq_unknownCheck_iff distinct member).mp fails
    refine ⟨?_, text, before, after, has, parts, fun other front => ?_,
      check, member, rfl, failure, failed⟩
    · cases policy : c.policy with
      | report => rfl
      | abort =>
          obtain ⟨r, ok⟩ := sound policy check member
          rw [ok] at failed
          cases failed
    · obtain ⟨own, among, rfl⟩ := inText other (List.mem_append_left _ front)
      obtain ⟨s, signal⟩ := earlier own.name front
      obtain ⟨r, ok, signal⟩ := (Gate.signalOf_eq_ok_iff distinct among).mp signal
      exact ⟨own, among, rfl, r, s, ok, signal⟩
  · rintro ⟨policy, text, before, after, has, parts, earlier, check, member, rfl, failed⟩
    refine ⟨fun abort => ?_, text, has, before, check.name, after, parts, fun other front => ?_, ?_⟩
    · rw [show c.gate.policy = c.policy from rfl, policy] at abort
      cases abort
    · obtain ⟨own, among, rfl, r, s, ok, signal⟩ := earlier other front
      exact ⟨s, (Gate.signalOf_eq_ok_iff distinct among).mpr ⟨r, ok, signal⟩⟩
    · exact (Gate.signalOf_eq_unknownCheck_iff distinct member).mpr ⟨rfl, failed⟩

/-- The second name is that of a check that failed, and stands before another that failed too. -/
theorem evaluate_eq_unknownCheck_iff_second :
    let passing : NamedCheck := ⟨"a", ⟨"$", "$ == 1", .none⟩⟩
    let failing (name : String) : NamedCheck := ⟨name, ⟨"$", "$ + 'x' == 'y'", .none⟩⟩
    let c : Configuration :=
      ⟨false, 1, .report, some "a && (c || b)", [passing, failing "b", failing "c"]⟩
    let document : Json := .number (.integer 1)
    c.validate = .ok () ∧ c.gate.evaluate document = .error (.unknownCheck "c") := by
  intro passing failing c document
  have valid : c.validate = .ok () := by decide +kernel
  refine ⟨valid, ?_⟩
  have passes : (c.gate.evaluator.check passing.definition document).toOption.map (·.status) =
      some .green := by
    rw [Evaluator.check, Path.select_root]
    decide +kernel
  have fails : (c.gate.evaluator.check (failing "c").definition document).toOption.isSome =
      false := by
    rw [Evaluator.check, Path.select_root]
    decide +kernel
  obtain ⟨r, ok, green⟩ := exists_ok_of_map_toOption passes
  refine ((evaluate_eq_unknownCheck_iff valid document).2 "c").mpr
    ⟨rfl, _, ["a"], ["b"], rfl, by decide +kernel, ?_, failing "c", by simp [c], rfl, ?_⟩
  · rintro _ ⟨⟩
    · exact ⟨passing, by simp [c], rfl, r, .green, ok, by rw [green]; rfl⟩
    · contradiction
  · cases result : c.gate.evaluator.check (failing "c").definition document with
    | error failure => exact ⟨failure, rfl⟩
    | ok other =>
        rw [result] at fails
        cases fails

end QualityGate.Configuration
