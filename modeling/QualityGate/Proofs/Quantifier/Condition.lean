import QualityGate.Proofs.Evaluator
import QualityGate.Proofs.Failure
import QualityGate.Quantifier.Condition

/-!
# What a quantified condition comes to

`judgeQuantified_eq_ok_iff` says when a quantified condition comes to an outcome, in terms of the
calls of quantifiers that its expression makes: none of them fails, the result of the expression
decides, and the packages are those of the last call. There are none at all exactly when the
expression makes no call, or the last one is silent (`lastPackages_eq_none_iff`): a call of `all` or
`none` that holds.
-/

namespace QualityGate.Evaluator

open Expression (Correspondence)

variable {e e' : Evaluator} {items : List Json} {condition : String}

/-! ## Calls -/

section Correspondences

variable {m : Correspondence QuantifierCall QuantifierCall}

/-- A quantifier of two evaluators corresponds as soon as its calls on equal arguments do. -/
theorem quantifierFunction_functions [Readers] {q : Quantifier}
    (answers : ∀ items condition, m.clean (e.quantify q items condition) →
      callResult q (e.quantify q items condition) = callResult q (e'.quantify q items condition) ∧
        m.alike (e.quantify q items condition) (e'.quantify q items condition)) :
    m.Functions (e.quantifierFunction q) (e'.quantifierFunction q) := by
  intro target args args' each
  refine (Correspondence.argument_runs each 0).bind fun list => ?_
  refine (Correspondence.argument_runs each 1).bind fun text => ?_
  refine (Correspondence.wantText_runs text).bind fun condition => ?_
  split
  case h_1 items _ => exact Correspondence.Runs.record (answers items condition)
  case h_2 => exact .fail _

theorem quantifierFunctions_rel [Readers]
    (answers : ∀ q items condition, m.clean (e.quantify q items condition) →
      callResult q (e.quantify q items condition) = callResult q (e'.quantify q items condition) ∧
        m.alike (e.quantify q items condition) (e'.quantify q items condition)) (name : String) :
    Option.Rel m.Functions (e.quantifierFunctions name) (e'.quantifierFunctions name) := by
  unfold quantifierFunctions
  cases Quantifier.ofName? name with
  | none => exact .none
  | some q => exact .some (quantifierFunction_functions (answers q))

end Correspondences

/-- The calls that a quantified condition makes for the items of a list, and the result of its
expression. -/
def quantifiedRun [Readers] (e : Evaluator) (items : List Json) (condition : String) :
    List QuantifierCall × Except Failure Json :=
  (e.withDeadline e.timeout).run condition [(Quantifier.listName, .array items)]
    (e.withDeadline e.timeout).quantifierFunctions

/-- Every call that a quantified condition makes is one of a quantifier. -/
theorem eq_quantify_of_mem_quantifiedRun [Readers] {call : QuantifierCall}
    (member : call ∈ (e.quantifiedRun items condition).1) :
    ∃ q items' condition', call = (e.withDeadline e.timeout).quantify q items' condition' := by
  let own : Correspondence QuantifierCall QuantifierCall :=
    { clean := fun _ => True
      alike := fun c _ =>
        ∃ q items' condition', c = (e.withDeadline e.timeout).quantify q items' condition' }
  obtain ⟨-, each⟩ := run_corresponds (m := own)
    (quantifierFunctions_rel fun q items condition _ => ⟨rfl, q, items, condition, rfl⟩)
    (e.withDeadline e.timeout) condition [(Quantifier.listName, .array items)] fun _ _ => trivial
  exact (List.forall₂_same.mp each) call member

/-! ## Silent calls -/

/-- Whether a call has nothing to report: it is one of `all` or `none`, and it holds. -/
def Silent (e : Evaluator) (call : QuantifierCall) : Prop :=
  ∃ q items condition, call = e.quantify q items condition ∧ (q = .all ∨ q = .none) ∧
    ∃ o, call = .ok o ∧ o.result = true

/-- What reports offences has nothing to report exactly when it holds. -/
theorem packages_ofOffences_eq_none_iff {packages : List ReasonPackage} :
    (QuantifierOutcome.ofOffences packages).packages = .none ↔
      (QuantifierOutcome.ofOffences packages).result = true := by
  cases packages <;> simp [QuantifierOutcome.ofOffences]

/-- Only `all` and `none` can have nothing to report, and they do exactly when they hold. -/
theorem packages_eq_none_iff {q : Quantifier} {o : QuantifierOutcome}
    (ok : e.quantify q items condition = .ok o) :
    o.packages = .none ↔ (q = .all ∨ q = .none) ∧ o.result = true := by
  cases q with
  | all =>
      obtain ⟨failures, -, ok⟩ := bind_eq_ok_iff.mp ok
      cases ok
      simpa using packages_ofOffences_eq_none_iff
  | any =>
      obtain ⟨⟨found, examined⟩, -, ok⟩ := bind_eq_ok_iff.mp ok
      cases ok
      simp
  | one =>
      obtain ⟨⟨valid, invalid⟩, -, ok⟩ := bind_eq_ok_iff.mp ok
      match valid with
      | [] | [_] | _ :: _ :: _ =>
          cases ok
          simp
  | none =>
      obtain ⟨matching, -, ok⟩ := bind_eq_ok_iff.mp ok
      cases ok
      simpa using packages_ofOffences_eq_none_iff

/-- A call of a quantifier that comes to an outcome is silent exactly when it reports nothing. -/
theorem silent_iff {q : Quantifier} {o : QuantifierOutcome}
    (ok : e.quantify q items condition = .ok o) :
    e.Silent (.ok o) ↔ o.packages = .none := by
  constructor
  · rintro ⟨q', items', condition', same, kind, o', equal, holds⟩
    cases equal
    exact (packages_eq_none_iff same.symm).mpr ⟨kind, holds⟩
  · intro none
    obtain ⟨kind, holds⟩ := (packages_eq_none_iff ok).mp none
    exact ⟨q, items, condition, ok.symm, kind, o, rfl, holds⟩

/-- Calls that all come to outcomes leave no packages exactly when there are none, or the last is
silent. -/
theorem lastPackages_eq_none_iff {calls : List QuantifierCall}
    (quantifiers : ∀ call ∈ calls, ∃ q items condition, call = e.quantify q items condition)
    (answered : ∀ call ∈ calls, ∃ o, call = .ok o) :
    lastPackages calls = .none ↔ ∀ last ∈ calls.getLast?, e.Silent last := by
  rcases calls.eq_nil_or_concat with rfl | ⟨front, last, rfl⟩
  · simp [lastPackages]
  · obtain ⟨q, items, condition, made⟩ := quantifiers last (by simp)
    obtain ⟨o, rfl⟩ := answered last (by simp)
    simp [lastPackages, Except.toOption, silent_iff made.symm]

/-! ## Outcomes -/

/-- There is no failure among calls exactly when all of them come to outcomes. -/
theorem firstFailure?_eq_none_iff {calls : List QuantifierCall} :
    firstFailure? calls = .none ↔ ∀ call ∈ calls, ∃ o, call = .ok o := by
  induction calls with
  | nil => simp [firstFailure?]
  | cons call rest ih =>
      cases call with
      | ok o => simp [firstFailure?, ih]
      | error failure => simp [firstFailure?]

/-- A quantified condition comes to an outcome when all of its calls and its expression do. -/
theorem judgeQuantified_eq_ok_iff [Readers] {o : QuantifierOutcome} :
    e.judgeQuantified items condition = .ok o ↔
      (∀ call ∈ (e.quantifiedRun items condition).1, ∃ o, call = .ok o) ∧
        ∃ value, (e.quantifiedRun items condition).2 = .ok value ∧
          o = ⟨value.isTruthy, lastPackages (e.quantifiedRun items condition).1⟩ := by
  simp only [judgeQuantified, quantifiedRun, ← firstFailure?_eq_none_iff]
  generalize (e.withDeadline e.timeout).run condition [(Quantifier.listName, .array items)]
    (e.withDeadline e.timeout).quantifierFunctions = run
  obtain ⟨calls, result⟩ := run
  cases firstFailure? calls with
  | some failure => simp
  | none =>
      cases result with
      | error failure => simp
      | ok value => simp [eq_comm]

end QualityGate.Evaluator
