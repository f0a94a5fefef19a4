import QualityGate.Check.Result
import QualityGate.Proofs.Quantifier.Failure

/-!
# Failures of checks and of names

A failure tells of a text or of the run of an expression, or it tells of a name in a concatenation.
Checks fail in the first way only, however their conditions combine expressions and quantifiers
(`check_fails`), so a failure of the second kind always comes from a concatenation.
-/

namespace QualityGate

/-- Whether a failure tells of a name in a concatenation. -/
inductive Failure.IsOfName : Failure → Prop
  | unknown (name : String) : IsOfName (.unknownCheck name)
  | unsupported (name status : String) : IsOfName (.unsupportedStatus name status)

variable {failure : Failure}

/-! ## Texts -/

theorem Path.eq_of_compile {text : String} (fails : compile text = .error failure) :
    failure = .invalidPath text := by
  unfold compile at fails
  split at fails
  · cases fails
  · exact (Except.error.inj fails).symm

theorem Path.eq_of_select {document : Json} {text : String}
    (fails : select document text = .error failure) : failure = .invalidPath text := by
  unfold select at fails
  split at fails
  case h_1 => cases fails
  case h_2 invalid =>
      cases fails
      exact eq_of_compile invalid

theorem Path.eq_of_selectFirst {document : Json} {text : String}
    (fails : selectFirst document text = .error failure) : failure = .invalidPath text := by
  unfold selectFirst at fails
  split at fails
  case h_1 => cases fails
  case h_2 invalid =>
      cases fails
      exact eq_of_select invalid

namespace Condition

variable {condition : String}

/-- A condition that cannot be prepared has no token, or several. -/
theorem prepare_fails (fails : prepare condition = .error failure) :
    failure = .noReference condition ∨ ∃ paths, failure = .severalReferences condition paths := by
  unfold prepare at fails
  split at fails
  case h_1 => cases fails
  case h_2 scanned =>
      cases fails
      unfold Reference.scan at scanned
      split at scanned
      · exact .inl (Except.error.inj scanned).symm
      · cases scanned
      · exact .inr ⟨_, (Except.error.inj scanned).symm⟩

theorem eq_of_valuesOf {subject : Json} {path : String}
    (fails : valuesOf subject path = .error failure) : failure = .invalidPath path := by
  unfold valuesOf at fails
  split at fails
  · exact Path.eq_of_select fails
  · cases fails

end Condition

/-! ## Checks -/

namespace Evaluator

variable {e : Evaluator} {condition expression : String}

theorem run_not_isOfName {κ : Type} {host : String → Option (Expression.Function κ)}
    {bindings : List (String × Json)}
    (fails : (e.run expression bindings host).2 = .error failure) : ¬ failure.IsOfName := by
  rcases run_fails fails with rfl | ⟨-, rfl⟩ | ⟨fault, rfl⟩ <;> nofun

theorem judge_not_isOfName {subject : Json} (fails : e.judge subject condition = .error failure) :
    ¬ failure.IsOfName := by
  rcases bind_eq_error_iff.mp fails with unprepared | ⟨prepared, -, fails⟩
  · rcases Condition.prepare_fails unprepared with rfl | ⟨paths, rfl⟩ <;> nofun
  rcases bind_eq_error_iff.mp fails with unselected | ⟨values, -, fails⟩
  · rw [Condition.eq_of_valuesOf unselected]
    nofun
  exact run_not_isOfName (bind_pure_eq_error_iff.mp fails)

theorem judgeQuantified_not_isOfName [Readers] {items : List Json}
    (fails : e.judgeQuantified items condition = .error failure) : ¬ failure.IsOfName := by
  rcases judgeQuantified_fails fails with ⟨q, items', condition', call⟩ | evaluated
  · rcases quantify_fails call with rfl | ⟨item, judged⟩
    · nofun
    · exact judge_not_isOfName judged
  · exact run_not_isOfName evaluated

theorem judgeSelected_not_isOfName [Readers] {values : List Json} {options : CheckOptions}
    (fails : e.judgeSelected condition values options = .error failure) : ¬ failure.IsOfName := by
  unfold judgeSelected at fails
  split at fails
  · exact judgeQuantified_not_isOfName (bind_pure_eq_error_iff.mp fails)
  · exact judge_not_isOfName (bind_pure_eq_error_iff.mp fails)

end Evaluator

/-- The contexts of packages cannot be trimmed only if what is kept of them is told by no path. -/
theorem ReasonPackage.trimAll_fails {log : Option String} {packages : List ReasonPackage}
    (fails : trimAll log packages = .error failure) : ∃ path, failure = .invalidPath path := by
  induction packages with
  | nil => cases fails
  | cons package rest ih =>
      rcases bind_eq_error_iff.mp fails with own | ⟨_, -, fails⟩
      · unfold trim at own
        split at own
        · split at own
          · exact ⟨_, Path.eq_of_selectFirst (bind_pure_eq_error_iff.mp own)⟩
          · cases own
        · cases own
      · exact ih (bind_pure_eq_error_iff.mp fails)

/-- No check fails with a failure that tells of a name. -/
theorem Evaluator.check_fails [Readers] {e : Evaluator} {d : CheckDefinition} {document : Json}
    (fails : e.check d document = .error failure) : ¬ failure.IsOfName := by
  rcases bind_eq_error_iff.mp fails with unselected | ⟨values, -, fails⟩
  · rw [Path.eq_of_select unselected]
    nofun
  split at fails
  case h_1 => cases fails
  case h_2 =>
      rcases bind_eq_error_iff.mp fails with judged | ⟨finding, -, fails⟩
      · exact judgeSelected_not_isOfName judged
      obtain ⟨path, rfl⟩ := ReasonPackage.trimAll_fails (bind_pure_eq_error_iff.mp fails)
      nofun

end QualityGate
