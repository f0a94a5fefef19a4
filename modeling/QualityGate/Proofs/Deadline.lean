import QualityGate.Proofs.Check.Result
import QualityGate.Proofs.Concatenation.Names
import QualityGate.Proofs.Quantifier.Time

/-!
# Deadlines

An evaluator knows the time that is left until its deadline. Here the deadline is an instant of a
clock (`DatedEvaluator`), and `evaluatorAt` is what is left of it at an instant. Deadlines are set
one after the other, and the earliest one counts (`late_withDeadlines_iff`).

After the deadline no operation runs an expression, and each of them says which text it had no time
for. `Evaluator.RunsNothing` lists them all, and `runsNothing_of_late` is the main result.
-/

namespace QualityGate

/-! ## Deadlines as instants -/

/-- The settings of evaluations, with the deadline as an instant. Instants and times are in
nanoseconds. -/
structure DatedEvaluator where
  exhaustive : Bool
  timeout : Nat
  deadline : Option Nat

namespace DatedEvaluator

/-- The evaluator bounded by one more deadline. An earlier one that is in place already stays. -/
def withDeadline (d : DatedEvaluator) (instant : Nat) : DatedEvaluator :=
  { d with deadline := some (match d.deadline with
    | some current => min current instant
    | none => instant) }

/-- The evaluator bounded by deadlines one after the other. -/
def withDeadlines (d : DatedEvaluator) (instants : List Nat) : DatedEvaluator :=
  instants.foldl withDeadline d

/-- The evaluator at an instant. -/
def evaluatorAt (d : DatedEvaluator) (now : Nat) : Evaluator :=
  ⟨d.exhaustive, d.timeout, d.deadline.map (· - now)⟩

/-- Whether the deadline has passed at an instant. -/
def Late (d : DatedEvaluator) (now : Nat) : Prop := ∃ deadline ∈ d.deadline, deadline ≤ now

/-- The evaluator with the time of one expression as a deadline, by a clock whose last instant is
given. A deadline behind that instant is none. -/
def withinTimeout (d : DatedEvaluator) (last now : Nat) : DatedEvaluator :=
  if now + d.timeout ≤ last then d.withDeadline (now + d.timeout) else d

variable {d : DatedEvaluator} {now instant : Nat}

@[simp] theorem withDeadline_timeout : (d.withDeadline instant).timeout = d.timeout := rfl

theorem withDeadlines_cons (instants : List Nat) :
    d.withDeadlines (instant :: instants) = (d.withDeadline instant).withDeadlines instants := rfl

theorem withDeadlines_timeout (instants : List Nat) :
    (d.withDeadlines instants).timeout = d.timeout := by
  induction instants generalizing d with
  | nil => rfl
  | cons instant instants ih => rw [withDeadlines_cons, ih, withDeadline_timeout]

/-- Setting a deadline and letting time pass can change places. -/
theorem evaluatorAt_withDeadline :
    (d.withDeadline instant).evaluatorAt now =
      (d.evaluatorAt now).withDeadline (instant - now) := by
  unfold evaluatorAt withDeadline Evaluator.withDeadline
  cases d.deadline with
  | none => rfl
  | some current =>
      have left : min current instant - now = min (current - now) (instant - now) := by omega
      simp only [Option.map_some, left]

/-- At one deadline more, an evaluator is late if it was so before, or if that deadline has
passed. -/
theorem late_withDeadline_iff : (d.withDeadline instant).Late now ↔ d.Late now ∨ instant ≤ now := by
  unfold Late withDeadline
  cases d.deadline with
  | none => simp
  | some current =>
      have earliest : min current instant ≤ now ↔ current ≤ now ∨ instant ≤ now := by omega
      simp only [Option.mem_def, Option.some.injEq, exists_eq_left', earliest]

/-- An evaluator is late as soon as one of its deadlines has passed. -/
theorem late_withDeadlines_iff {instants : List Nat} :
    (d.withDeadlines instants).Late now ↔ d.Late now ∨ ∃ instant ∈ instants, instant ≤ now := by
  induction instants generalizing d with
  | nil => simp [withDeadlines]
  | cons instant instants ih =>
      rw [withDeadlines_cons, ih, late_withDeadline_iff, or_assoc, List.exists_mem_cons_iff]

/-- A late evaluator has no time left. -/
theorem Late.timeLeft (late : d.Late now) : (d.evaluatorAt now).timeLeft = some 0 := by
  obtain ⟨deadline, has, passed⟩ := late
  rw [evaluatorAt, Option.mem_def.mp has, Option.map_some, Nat.sub_eq_zero_of_le passed]

end DatedEvaluator

/-! ## After the deadline -/

namespace Evaluator

/-- What an evaluator after its deadline comes to: every operation that would run an expression fails
instead, with its text and the given timeout. -/
structure RunsNothing [Readers] (e : Evaluator) (timeout : Nat) : Prop where
  /-- An expression is not run. -/
  run : ∀ {κ : Type} (expression : String) (bindings : List (String × Json))
      (host? : String → Option (Expression.Function κ)),
    e.run expression bindings host? = ([], .error (.outOfTime expression timeout))
  /-- A condition fails once its token and its values are found. -/
  judge : ∀ subject condition prepared values, Condition.prepare condition = .ok prepared →
    Condition.valuesOf subject prepared.reference.path = .ok values →
    e.judge subject condition = .error (.outOfTime prepared.expression timeout)
  /-- `all` and `one` fail on every list with an item. -/
  every : ∀ items condition, items ≠ [] →
    e.all items condition = .error (.outOfTime condition timeout) ∧
      e.one items condition = .error (.outOfTime condition timeout)
  /-- `any` and `none` fail on every list with an item that is present. -/
  present : ∀ items condition, (∃ item ∈ items, item.isTruthy = true) →
    e.any items condition = .error (.outOfTime condition timeout) ∧
      e.none items condition = .error (.outOfTime condition timeout)
  /-- A quantified condition fails as a whole. -/
  judgeQuantified : ∀ items condition,
    e.judgeQuantified items condition = .error (.outOfTime condition timeout)
  /-- A formula fails once all of its names have signals. -/
  concatenate : ∀ condition registry,
    (∀ name ∈ Concatenation.names condition, ∃ s, Concatenation.signalOf registry name = .ok s) →
    ∃ expression, Concatenation.expand registry condition = .ok expression ∧
      e.concatenate condition registry = .error (.outOfTime expression timeout)
  /-- A check comes to a result only if there is nothing to judge. -/
  check : ∀ d document r, e.check d document = .ok r → ∃ values,
    Path.select document d.reference = .ok values ∧
      (values = [] ∧ Path.mentionsFilter d.reference = false ∨
        ∃ only, values = [only] ∧ only.isHollow = true)

variable {e : Evaluator} {condition : String} {items : List Json}

section Passed

variable (passed : e.timeLeft = some 0)
include passed

theorem compute_of_passed (expression : String) (bindings : List (String × Json)) :
    e.compute expression bindings = .error (.outOfTime expression e.timeout) := by
  rw [compute, run_of_spent (budget_of_passed passed)]

theorem judge_of_passed {subject : Json} {prepared : Condition.Prepared} {values : List Json}
    (prepares : Condition.prepare condition = .ok prepared)
    (selects : Condition.valuesOf subject prepared.reference.path = .ok values) :
    e.judge subject condition = .error (.outOfTime prepared.expression e.timeout) := by
  rw [judge, prepares, ok_bind, selects, ok_bind, compute_of_passed passed]
  rfl

/-- A condition never comes to a judgement after the deadline. -/
theorem judge_ne_ok_of_passed {subject : Json} {j : Judgement} :
    e.judge subject condition ≠ .ok j := by
  intro judged
  obtain ⟨prepared, prepares, rest⟩ := bind_eq_ok_iff.mp judged
  obtain ⟨values, selects, -⟩ := bind_eq_ok_iff.mp rest
  rw [judge_of_passed passed prepares selects] at judged
  cases judged

/-- The deadline of the quantified condition comes on top of the one that has passed. -/
theorem judgeQuantified_of_passed [Readers] :
    e.judgeQuantified items condition = .error (.outOfTime condition e.timeout) := by
  have still : (e.withDeadline e.timeout).timeLeft = some 0 := by
    simp only [withDeadline, passed, Nat.zero_min]
  rw [judgeQuantified]
  dsimp only
  rw [run_of_spent (budget_of_passed still)]
  rfl

theorem concatenate_of_passed {registry : Registry} {expression : String}
    (expands : Concatenation.expand registry condition = .ok expression) :
    e.concatenate condition registry = .error (.outOfTime expression e.timeout) := by
  rw [concatenate, expands, ok_bind, fold, compute_of_passed passed]
  rfl

theorem judgeSelected_ne_ok_of_passed [Readers] {options : CheckOptions} {finding : Finding} :
    e.judgeSelected condition items options ≠ .ok finding := by
  intro judged
  unfold judgeSelected at judged
  split at judged
  · rw [judgeQuantified_of_passed passed] at judged
    cases judged
  · obtain ⟨j, judged, -⟩ := bind_eq_ok_iff.mp judged
    exact judge_ne_ok_of_passed passed judged

/-- A check that came to a result after the deadline had nothing to judge. -/
theorem settles_of_passed [Readers] {d : CheckDefinition} {document : Json} {r : CheckResult}
    (ok : e.check d document = .ok r) : ∃ values,
      Path.select document d.reference = .ok values ∧
        (values = [] ∧ Path.mentionsFilter d.reference = false ∨
          ∃ only, values = [only] ∧ only.isHollow = true) := by
  obtain ⟨values, selected, -⟩ := bind_eq_ok_iff.mp ok
  refine ⟨values, selected, isSome_settledBefore?_iff.mp ?_⟩
  cases settled : settledBefore? d values with
  | some status => rfl
  | none =>
      rw [check_of_unsettled selected settled] at ok
      obtain ⟨finding, judged, -⟩ := bind_eq_ok_iff.mp ok
      exact (judgeSelected_ne_ok_of_passed passed judged).elim

theorem runsNothing_of_passed [Readers] : e.RunsNothing e.timeout where
  run _ _ _ := run_of_spent (budget_of_passed passed) _ _
  judge _ _ _ _ prepares selects := judge_of_passed passed prepares selects
  every items condition some :=
    ⟨quantify_of_passed (q := .all) passed some, quantify_of_passed (q := .one) passed some⟩
  present items condition there := by
    have some : items.filter Json.isTruthy ≠ [] := by simpa using there
    exact ⟨quantify_of_passed (q := .any) passed some, quantify_of_passed (q := .none) passed some⟩
  judgeQuantified _ _ := judgeQuantified_of_passed passed
  concatenate _ _ known := by
    obtain ⟨expression, expands⟩ := Concatenation.exists_expand known
    exact ⟨expression, expands, concatenate_of_passed passed expands⟩
  check _ _ _ ok := settles_of_passed passed ok

end Passed

/-! ## The deadline of a quantified condition -/

/-- Judges the items of a list by a quantified condition, within the time of the evaluator as it
is. -/
def judgeWithin [Readers] (e : Evaluator) (items : List Json) (condition : String) :
    Except Failure QuantifierOutcome :=
  let (calls, result) := e.run condition [(Quantifier.listName, .array items)]
    e.quantifierFunctions
  match firstFailure? calls with
  | some failure => .error failure
  | .none => match result with
    | .ok value => .ok ⟨value.isTruthy, lastPackages calls⟩
    | .error failure => .error failure

theorem judgeQuantified_eq [Readers] :
    e.judgeQuantified = (e.withDeadline e.timeout).judgeWithin := rfl

/-- A deadline that is no nearer than the timeout makes no difference. -/
theorem judgeWithin_withDeadline [Readers] :
    (e.withDeadline e.timeout).judgeWithin = e.judgeWithin := by
  funext items condition
  by_cases spent : e.budget = 0
  · have still : (e.withDeadline e.timeout).budget = 0 :=
      Nat.eq_zero_of_le_zero (spent ▸ budget_withDeadline_le e.timeout)
    rw [judgeWithin, judgeWithin, run_of_spent spent, run_of_spent still]
    rfl
  · have time := budget_withDeadline spent
    have quantifiers : (e.withDeadline e.timeout).quantifierFunctions = e.quantifierFunctions := by
      unfold quantifierFunctions quantifierFunction
      rw [quantify_eq_of_time time spent rfl]
    rw [judgeWithin, judgeWithin, quantifiers, run_of_time time, run_of_time spent]

end Evaluator

/-! ## Deadlines that are set -/

namespace DatedEvaluator

variable {d : DatedEvaluator}

theorem evaluatorAt_withinTimeout_le (last now later : Nat) :
    ((d.withinTimeout last now).evaluatorAt later).budget ≤ (d.evaluatorAt later).budget := by
  unfold withinTimeout
  split
  · rw [evaluatorAt_withDeadline]
    exact Evaluator.budget_withDeadline_le _
  · exact Nat.le_refl _

theorem judgeWithin_withinTimeout [Readers] (last now : Nat) :
    ((d.withinTimeout last now).evaluatorAt now).judgeWithin =
      (d.evaluatorAt now).judgeQuantified := by
  have own : (d.evaluatorAt now).timeout = d.timeout := rfl
  rw [Evaluator.judgeQuantified_eq, own]
  unfold withinTimeout
  split
  · rw [evaluatorAt_withDeadline, Nat.add_sub_cancel_left]
  · exact Evaluator.judgeWithin_withDeadline.symm

/-- **Nothing is evaluated after a deadline.** Of deadlines that are set one after the other it is
enough that one has passed, in whatever place: then no operation runs an expression, and the failures
carry the timeout of the settings. The deadline that a quantified condition sets itself only takes
time away, and where the clock does not reach so far, the condition comes to the same as ever. -/
theorem runsNothing_of_late [Readers] {instants : List Nat} {instant now : Nat}
    (set : instant ∈ instants) (passed : instant ≤ now) (d : DatedEvaluator) :
    ((d.withDeadlines instants).evaluatorAt now).RunsNothing d.timeout ∧
      (∀ last later, ((d.withinTimeout last now).evaluatorAt later).budget ≤
        (d.evaluatorAt later).budget) ∧
      ∀ last, ((d.withinTimeout last now).evaluatorAt now).judgeWithin =
        (d.evaluatorAt now).judgeQuantified := by
  have late : (d.withDeadlines instants).Late now :=
    late_withDeadlines_iff.mpr (.inr ⟨instant, set, passed⟩)
  have nothing := Evaluator.runsNothing_of_passed late.timeLeft
  have timeout : ((d.withDeadlines instants).evaluatorAt now).timeout = d.timeout :=
    withDeadlines_timeout instants
  rw [timeout] at nothing
  exact ⟨nothing, fun last later => evaluatorAt_withinTimeout_le last now later,
    fun last => judgeWithin_withinTimeout last now⟩

/-- The deadline that has passed stands between two that have not. -/
theorem runsNothing_of_late_between :
    let d : DatedEvaluator := ⟨false, 5, none⟩
    let e := (d.withDeadlines [9, 3, 7]).evaluatorAt 4
    let one : Json := .number (.integer 1)
    3 ∈ [9, 3, 7] ∧ 3 ≤ 4 ∧ e.all [one] "$ == 1" = .error (.outOfTime "$ == 1" 5) ∧
      e.judge one "$ == 1" = .error (.outOfTime "value == 1" 5) := by
  intro d e one
  have set : 3 ∈ [9, 3, 7] := by decide
  have passed : 3 ≤ 4 := by decide
  obtain ⟨nothing, -, -⟩ := runsNothing_of_late set passed d
  obtain ⟨all, -⟩ := nothing.every [one] "$ == 1" (List.cons_ne_nil _ _)
  exact ⟨set, passed, all, nothing.judge one "$ == 1" _ [one] rfl rfl⟩

end DatedEvaluator

end QualityGate
