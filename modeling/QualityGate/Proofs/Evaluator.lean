import QualityGate.Evaluator
import QualityGate.Proofs.Expression.Correspondence

/-!
# Evaluating an expression

`run_corresponds` is the form in which other modules use corresponding runs: two hosts whose
functions correspond get corresponding calls and one result from the same expression.

The settings of an evaluator matter to an expression only as far as they leave time for it. So
evaluators that have time left compute alike (`compute_eq_of_time`). An expression fails in three
ways (`run_fails`).
-/

namespace QualityGate.Evaluator

open Expression (Correspondence Function)

variable {κ μ : Type} {m : Correspondence κ μ} {host : String → Option (Function κ)}
  {host' : String → Option (Function μ)}

/-- Corresponding functions of the hosts make corresponding scopes. -/
theorem scopeOf_scopes (functions : ∀ name, Option.Rel m.Functions (host name) (host' name))
    (bindings : List (String × Json)) :
    m.Scopes (scopeOf bindings host) (scopeOf bindings host') := by
  refine ⟨rfl, fun name => ?_⟩
  have related := functions name
  unfold scopeOf
  dsimp only
  generalize host name = f, host' name = g at related
  cases related with
  | none => exact Correspondence.standard?_functions name
  | some alike => exact .some alike

/-- Unless the first host gets a call that is not clean, both get one result and corresponding
calls. -/
theorem run_corresponds (functions : ∀ name, Option.Rel m.Functions (host name) (host' name))
    (e : Evaluator) (expression : String) (bindings : List (String × Json))
    (clean : ∀ c ∈ (e.run expression bindings host).1, m.clean c) :
    (e.run expression bindings host).2 = (e.run expression bindings host').2 ∧
      List.Forall₂ m.alike (e.run expression bindings host).1
        (e.run expression bindings host').1 := by
  unfold run at clean ⊢
  by_cases spent : e.budget = 0
  · rw [if_pos spent, if_pos spent]
    exact ⟨rfl, .nil⟩
  · rw [if_neg spent] at clean ⊢
    rw [if_neg spent]
    cases parsed : Expression.parse? expression with
    | none => exact ⟨rfl, .nil⟩
    | some t =>
        simp only [parsed] at clean
        obtain ⟨outcome, alike⟩ :=
          Correspondence.eval_runs t (scopeOf_scopes functions bindings) clean
        exact ⟨by simp only [resultOf, outcome], alike⟩

/-! ## Time -/

section Time

variable {e e' : Evaluator}

/-- With time left, an expression is run whatever the time is. -/
theorem run_of_time (time : e.budget ≠ 0) (expression : String)
    (bindings : List (String × Json)) :
    e.run expression bindings host = match Expression.parse? expression with
      | none => ([], .error (.unreadable expression))
      | some t =>
        ((t.eval (scopeOf bindings host)).calls,
          resultOf expression (t.eval (scopeOf bindings host))) := by
  unfold run
  exact if_neg time

theorem compute_eq_of_time (time : e.budget ≠ 0) (time' : e'.budget ≠ 0) :
    e.compute = e'.compute := by
  funext expression bindings
  rw [compute, compute, run_of_time time, run_of_time time']

/-- After the deadline there is no time for anything. -/
theorem budget_of_passed (passed : e.timeLeft = some 0) : e.budget = 0 := by
  rw [budget, passed]
  exact Nat.zero_min e.timeout

theorem timeLeft_ne_zero (time : e.budget ≠ 0) : e.timeLeft ≠ some 0 :=
  fun passed => time (budget_of_passed passed)

theorem ensureTimeLeft_of_time (time : e.budget ≠ 0) (text : String) :
    e.ensureTimeLeft text = .ok () := if_neg (timeLeft_ne_zero time)

/-- A deadline only takes time away. -/
theorem budget_withDeadline_le (left : Nat) : (e.withDeadline left).budget ≤ e.budget := by
  unfold budget withDeadline
  cases e.timeLeft with
  | none => exact Nat.min_le_right _ _
  | some current =>
      dsimp only
      omega

/-- A deadline after the time of one expression leaves time for it. -/
theorem budget_withDeadline (time : e.budget ≠ 0) : (e.withDeadline e.timeout).budget ≠ 0 := by
  unfold budget withDeadline at *
  cases left : e.timeLeft with
  | none =>
      rw [left] at time
      simpa using time
  | some left =>
      simp only [left] at time ⊢
      omega

theorem ensureTimeLeft_of_passed (passed : e.timeLeft = some 0) (text : String) :
    e.ensureTimeLeft text = .error (.outOfTime text e.timeout) := if_pos passed

/-- Without time no expression is run. -/
theorem run_of_spent (spent : e.budget = 0) (expression : String)
    (bindings : List (String × Json)) :
    e.run expression bindings host = ([], .error (.outOfTime expression e.timeout)) :=
  if_pos spent

end Time

/-! ## Failures -/

section Failures

variable {e : Evaluator} {expression : String} {failure : Failure}

/-- The result of a run fails with nothing but a fault. -/
theorem exists_fault_of_resultOf {r : Expression.Run κ Expression.Value}
    (fails : resultOf expression r = .error failure) :
    ∃ fault, failure = .faulty expression fault := by
  unfold resultOf at fails
  split at fails
  · exact ⟨_, (Except.error.inj fails).symm⟩
  · split at fails
    · cases fails
    · exact ⟨_, (Except.error.inj fails).symm⟩

/-- An expression that fails had no time, is none, or came to a fault. -/
theorem run_fails {bindings : List (String × Json)}
    (fails : (e.run expression bindings host).2 = .error failure) :
    failure = .outOfTime expression e.timeout ∨
      Expression.parse? expression = none ∧ failure = .unreadable expression ∨
      ∃ fault, failure = .faulty expression fault := by
  unfold run at fails
  split at fails
  case isTrue => exact .inl (Except.error.inj fails).symm
  case isFalse =>
      split at fails
      case h_1 unread => exact .inr (.inl ⟨unread, (Except.error.inj fails).symm⟩)
      case h_2 => exact .inr (.inr (exists_fault_of_resultOf fails))

end Failures

end QualityGate.Evaluator
