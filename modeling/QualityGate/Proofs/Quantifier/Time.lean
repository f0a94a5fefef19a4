import QualityGate.Proofs.Evaluator
import QualityGate.Proofs.Failure
import QualityGate.Quantifier.Condition

/-!
# Quantifiers and time

With time left, quantifiers do not see how much of it there is (`quantify_eq_of_time`). After the
deadline they fail at the first item that they would look at, whatever it is
(`quantify_of_passed`).
-/

namespace QualityGate.Evaluator

variable {e e' : Evaluator} {condition : String} {items : List Json}

/-! ## With time left -/

/-- With time left, a quantifier does not see how much of it there is. -/
theorem quantify_eq_of_time (time : e.budget ≠ 0) (time' : e'.budget ≠ 0)
    (search : e.exhaustive = e'.exhaustive) : e.quantify = e'.quantify := by
  have compute := compute_eq_of_time time time'
  have judgeItem : e.judgeItem = e'.judgeItem := by
    funext condition item
    rw [Evaluator.judgeItem, Evaluator.judgeItem, ensureTimeLeft_of_time time,
      ensureTimeLeft_of_time time', judge, judge, compute]
  have judgeOrRefuse : e.judgeOrRefuse = e'.judgeOrRefuse := by
    funext condition item
    rw [Evaluator.judgeOrRefuse, Evaluator.judgeOrRefuse, judgeItem, ensureTimeLeft_of_time time,
      ensureTimeLeft_of_time time']
  funext q items condition
  cases q with
  | all => rw [quantify, quantify, all, all, judgeOrRefuse, search]
  | any => rw [quantify, quantify, any, any, judgeItem]
  | one => rw [quantify, quantify, one, one, judgeOrRefuse, search]
  | none => rw [quantify, quantify, none, none, judgeItem, search]

/-! ## After the deadline -/

/-- The items that a quantifier looks at: all of them, or those that are there. -/
def looksAt : Quantifier → List Json → List Json
  | .all, items | .one, items => items
  | .any, items | .none, items => items.filter Json.isTruthy

theorem judgeItem_of_passed (passed : e.timeLeft = some 0) (item : Json) :
    e.judgeItem condition item = .error (.outOfTime condition e.timeout) :=
  bind_eq_error_iff.mpr (.inl (ensureTimeLeft_of_passed passed condition))

theorem judgeOrRefuse_of_passed (passed : e.timeLeft = some 0) (item : Json) :
    e.judgeOrRefuse condition item = .error (.outOfTime condition e.timeout) := by
  unfold judgeOrRefuse
  split
  · exact judgeItem_of_passed passed item
  · exact bind_eq_error_iff.mpr (.inl (ensureTimeLeft_of_passed passed condition))

/-- After the deadline a quantifier that looks at an item fails with its element condition. -/
theorem quantify_of_passed (passed : e.timeLeft = some 0) {q : Quantifier}
    (some : looksAt q items ≠ []) :
    e.quantify q items condition = .error (.outOfTime condition e.timeout) := by
  -- Each search starts with the test of the first item, which fails.
  obtain ⟨item, rest, first⟩ := List.exists_cons_of_ne_nil some
  have present : e.judgeItem condition item = _ := judgeItem_of_passed passed item
  have any : e.judgeOrRefuse condition item = _ := judgeOrRefuse_of_passed passed item
  cases q with
  | all =>
      obtain rfl : items = item :: rest := first
      exact bind_eq_error_iff.mpr (.inl (bind_eq_error_iff.mpr (.inl any)))
  | any =>
      have looks : items.filter Json.isTruthy = item :: rest := first
      rw [quantify, Evaluator.any, looks]
      exact bind_eq_error_iff.mpr (.inl (bind_eq_error_iff.mpr (.inl present)))
  | one =>
      obtain rfl : items = item :: rest := first
      exact bind_eq_error_iff.mpr (.inl (bind_eq_error_iff.mpr (.inl any)))
  | none =>
      have looks : items.filter Json.isTruthy = item :: rest := first
      rw [quantify, Evaluator.none, looks]
      exact bind_eq_error_iff.mpr (.inl (bind_eq_error_iff.mpr (.inl present)))

end QualityGate.Evaluator
