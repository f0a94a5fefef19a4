import QualityGate.Proofs.Quantifier.Condition

/-!
# What a quantified condition fails with

A quantifier fails once the deadline has passed, and otherwise only where the judgement of an item
does (`quantify_fails`). A quantified condition fails in one of its calls, or where its expression
does (`judgeQuantified_fails`).
-/

namespace QualityGate.Evaluator

variable {e : Evaluator} {condition : String} {items : List Json} {failure : Failure}

/-! ## Items -/

theorem eq_of_ensureTimeLeft {text : String} (fails : e.ensureTimeLeft text = .error failure) :
    failure = .outOfTime text e.timeout := by
  unfold ensureTimeLeft at fails
  split at fails
  case isTrue => exact (Except.error.inj fails).symm
  case isFalse => cases fails

theorem judgeItem_fails {item : Json} (fails : e.judgeItem condition item = .error failure) :
    failure = .outOfTime condition e.timeout ∨ e.judge item condition = .error failure := by
  rcases bind_eq_error_iff.mp fails with late | ⟨_, -, fails⟩
  · exact .inl (eq_of_ensureTimeLeft late)
  · exact .inr (bind_pure_eq_error_iff.mp fails)

theorem judgeOrRefuse_fails {item : Json}
    (fails : e.judgeOrRefuse condition item = .error failure) :
    failure = .outOfTime condition e.timeout ∨ e.judge item condition = .error failure := by
  unfold judgeOrRefuse at fails
  split at fails
  case isTrue => exact judgeItem_fails fails
  case isFalse => exact .inl (eq_of_ensureTimeLeft (bind_pure_eq_error_iff.mp fails))

/-! ## Searches through a list -/

section Searches

variable {test : Json → Except Failure (Bool × ReasonPackage)} {exhaustive wanted : Bool}

/-- A search fails only where the test of an item does. -/
theorem exists_fails_of_collect (fails : collect exhaustive wanted test items = .error failure) :
    ∃ item, test item = .error failure := by
  induction items with
  | nil => cases fails
  | cons item rest ih =>
      rcases bind_eq_error_iff.mp fails with own | ⟨⟨holds, package⟩, -, fails⟩
      · exact ⟨item, own⟩
      dsimp only at fails
      split at fails
      · split at fails
        · exact ih (bind_pure_eq_error_iff.mp fails)
        · cases fails
      · exact ih fails

theorem exists_fails_of_search (fails : search test items = .error failure) :
    ∃ item, test item = .error failure := by
  induction items with
  | nil => cases fails
  | cons item rest ih =>
      rcases bind_eq_error_iff.mp fails with own | ⟨⟨holds, package⟩, -, fails⟩
      · exact ⟨item, own⟩
      dsimp only at fails
      split at fails
      · cases fails
      · exact ih (bind_pure_eq_error_iff.mp fails)

theorem exists_fails_of_divide {valid invalid : List ReasonPackage}
    (fails : divide exhaustive test valid invalid items = .error failure) :
    ∃ item, test item = .error failure := by
  induction items generalizing valid invalid with
  | nil => cases fails
  | cons item rest ih =>
      rcases bind_eq_error_iff.mp fails with own | ⟨⟨holds, package⟩, -, fails⟩
      · exact ⟨item, own⟩
      dsimp only at fails
      split at fails
      · split at fails
        · exact ih fails
        · cases fails
      · exact ih fails

end Searches

/-! ## Quantifiers -/

/-- A quantifier fails at the deadline, or where the judgement of an item does. -/
theorem quantify_fails {q : Quantifier} (fails : e.quantify q items condition = .error failure) :
    failure = .outOfTime condition e.timeout ∨ ∃ item, e.judge item condition = .error failure := by
  cases q with
  | all =>
      obtain ⟨item, fails⟩ := exists_fails_of_collect (bind_pure_eq_error_iff.mp fails)
      exact (judgeOrRefuse_fails fails).imp_right fun judged => ⟨item, judged⟩
  | any =>
      obtain ⟨item, fails⟩ := exists_fails_of_search (bind_pure_eq_error_iff.mp fails)
      exact (judgeItem_fails fails).imp_right fun judged => ⟨item, judged⟩
  | one =>
      rcases bind_eq_error_iff.mp fails with fails | ⟨⟨valid, invalid⟩, -, fails⟩
      · obtain ⟨item, fails⟩ := exists_fails_of_divide fails
        exact (judgeOrRefuse_fails fails).imp_right fun judged => ⟨item, judged⟩
      · match valid with
        | [] | [_] | _ :: _ :: _ => cases fails
  | none =>
      obtain ⟨item, fails⟩ := exists_fails_of_collect (bind_pure_eq_error_iff.mp fails)
      exact (judgeItem_fails fails).imp_right fun judged => ⟨item, judged⟩

/-! ## Quantified conditions -/

theorem mem_of_firstFailure? {calls : List QuantifierCall}
    (first : firstFailure? calls = some failure) : .error failure ∈ calls := by
  induction calls with
  | nil => cases first
  | cons call rest ih =>
      cases call with
      | error own =>
          cases first
          exact List.mem_cons_self
      | ok o => exact List.mem_cons_of_mem _ (ih first)

/-- A quantified condition fails in a call of a quantifier, or where its expression does. -/
theorem judgeQuantified_fails [Readers]
    (fails : e.judgeQuantified items condition = .error failure) :
    (∃ q items' condition',
        (e.withDeadline e.timeout).quantify q items' condition' = .error failure) ∨
      (e.quantifiedRun items condition).2 = .error failure := by
  simp only [judgeQuantified] at fails
  cases first : firstFailure? (e.quantifiedRun items condition).1 with
  | some own =>
      obtain ⟨q, items', condition', made⟩ :=
        eq_quantify_of_mem_quantifiedRun (mem_of_firstFailure? first)
      rw [quantifiedRun] at first
      simp only [first] at fails
      cases fails
      exact .inl ⟨q, items', condition', made.symm⟩
  | none =>
      rw [quantifiedRun] at first
      simp only [first] at fails
      split at fails
      case h_1 => cases fails
      case h_2 result =>
          cases fails
          exact .inr result

end QualityGate.Evaluator
