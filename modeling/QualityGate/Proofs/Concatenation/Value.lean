import QualityGate.Proofs.Concatenation.Expansion
import QualityGate.Proofs.Evaluator
import QualityGate.Proofs.Expression.Connectives

/-!
# The status of a concatenation

A concatenation comes to the status of what it is read as (`Reading.fold_of_written`), and fails if
that makes a call. For a formula this is the value of the formula (`concatenate_of_written`): the
worse signal of the sides of `&&`, and the better one of the sides of `||`. The evaluation knows
nothing of an order of signals. It sees each signal as true or false, and the truth of a formula is
that of its value as long as the true signals are the better ones (`Accepting`); two such
evaluations single out the value.
-/

namespace QualityGate

open Expression (Run Term Value Meaning)

namespace Concatenation

open Formula (Strength)
open Reading (Written)

/-! ## Formulas over signals -/

/-- Whether the accepted signals are the better ones: the worse of two signals is accepted if both
are, and the better one if either is. -/
structure Accepting (accepts : Signal → Bool) : Prop where
  min : ∀ a b, accepts (min a b) = (accepts a && accepts b)
  max : ∀ a b, accepts (max a b) = (accepts a || accepts b)

theorem accepting_tolerant : Accepting (· != .red) := by
  constructor <;> intro a b <;> cases a <;> cases b <;> rfl

theorem accepting_strict : Accepting (· == .green) := by
  constructor <;> intro a b <;> cases a <;> cases b <;> rfl

/-! ## Terms over signals -/

/-- The truth of a part of an expression for the signals that are accepted, if it has one. -/
abbrev SignalTruth := (Signal → Bool) → Option Bool

namespace SignalTruth

/-- The truth of a conjunction. Its right side does not matter if the left one is false. -/
def and (a b : SignalTruth) : SignalTruth := fun accepts => do
  if ← a accepts then b accepts else return false

/-- The truth of a disjunction. Its right side does not matter if the left one is true. -/
def or (a b : SignalTruth) : SignalTruth := fun accepts => do
  if ← a accepts then return true else b accepts

end SignalTruth

/-- The truth of a reading for the signals of the checks. -/
def Reading.truthOf (signals : String → Signal) (f : Reading) : SignalTruth := fun accepts =>
  f.truth? fun name => accepts (signals name)

/-- Whether a run gives a truth value, or fails if there is none. -/
def Gives (r : Run Empty Value) : Option Bool → Prop
  | some b => r = pure (.bool b)
  | none => ∃ fault, r.outcome = .error fault

theorem Gives.bind_none {r : Run Empty Value} {next : Value → Run Empty Value}
    (fails : Gives r none) : Gives (r >>= next) none := by
  obtain ⟨calls, outcome⟩ := r
  obtain ⟨fault, rfl⟩ := fails
  exact ⟨fault, rfl⟩

theorem Gives.bind_some {r : Run Empty Value} {next : Value → Run Empty Value} {b : Bool}
    {result : Option Bool} (first : Gives r (some b)) (second : Gives (next (.bool b)) result) :
    Gives (r >>= next) result := by
  cases first
  exact second

/-- A term over signals means the truth that its run gives. -/
def signalMeaning : Meaning SignalTruth where
  means t b := ∀ accepts,
    Gives (t.eval (Evaluator.scopeOf (signalVariables accepts) Evaluator.noFunctions)) (b accepts)
  conj := .and
  disj := .or
  conj_assoc a b c := by
    funext accepts
    simp only [SignalTruth.and]
    rcases a accepts with _ | _ | _ <;> rfl
  disj_assoc a b c := by
    funext accepts
    simp only [SignalTruth.or]
    rcases a accepts with _ | _ | _ <;> rfl
  and_means := by
    intro t u a b left right accepts
    have left := left accepts
    have right := right accepts
    simp only [SignalTruth.and]
    generalize a accepts = x at left ⊢
    generalize b accepts = y at right ⊢
    match x, y with
    | none, _ => exact left.bind_none
    | some false, _ => exact left.bind_some rfl
    | some true, none => exact left.bind_some right.bind_none
    | some true, some _ => exact left.bind_some (right.bind_some rfl)
  or_means := by
    intro t u a b left right accepts
    have left := left accepts
    have right := right accepts
    simp only [SignalTruth.or]
    generalize a accepts = x at left ⊢
    match x with
    | none => exact left.bind_none
    | some false => exact left.bind_some right
    | some true => exact left.bind_some rfl

/-- A signal is true if it is accepted. -/
theorem means_signal (s : Signal) :
    signalMeaning.means (.name s.label) fun accepts => some (accepts s) := by
  intro accepts
  cases s <;> rfl

/-- There is no function of the name of a signal. -/
theorem means_call (s : Signal) : signalMeaning.means (.call s.label []) fun _ => none := by
  intro accepts
  cases s <;> exact ⟨_, rfl⟩

/-- The label of a signal is a name. -/
theorem exists_label_eq (s : Signal) :
    ∃ c cs, s.label.toList = c :: cs ∧ Text.isNameStart c = true ∧
      (∀ d ∈ cs, Text.isNameRest d = true) ∧ Expression.isReserved (c :: cs) = false := by
  cases s with
  | red => exact ⟨'R', ['E', 'D'], rfl, rfl, List.all_eq_true.mp rfl, rfl⟩
  | yellow => exact ⟨'Y', ['E', 'L', 'L', 'O', 'W'], rfl, rfl, List.all_eq_true.mp rfl, rfl⟩
  | green => exact ⟨'G', ['R', 'E', 'E', 'N'], rfl, rfl, List.all_eq_true.mp rfl, rfl⟩

/-- The tokens of a text over signals, by how tightly it holds together. -/
def Tokens : Strength → List Expression.Lexeme → SignalTruth → Prop
  | .operand => signalMeaning.Operand
  | .conjunction => signalMeaning.Conjunction
  | .disjunction => signalMeaning.Disjunction

/-- A text over signals is cut into tokens that mean the truth of what it is read as. -/
theorem cutAs_of_written {signals : String → Signal} {strength : Strength} {f : Reading}
    {cs : List Char} (written : Written (spellSignal signals) strength f cs) :
    Meaning.CutAs (Tokens strength) cs (f.truthOf signals) := by
  induction written with
  | @check name =>
      obtain ⟨c, cs, label, start, rest, free⟩ := exists_label_eq (signals name)
      rw [spellSignal, label]
      refine ⟨_, Expression.Lexeme.cutsInto_name start rest, Meaning.Operand.name free ?_⟩
      rw [← label, String.ofList_toList]
      exact means_signal (signals name)
  | @call name _ _ _ blanks empty =>
      obtain ⟨c, cs, label, start, rest, free⟩ := exists_label_eq (signals name)
      rw [spellSignal, label]
      refine ⟨_, Expression.Lexeme.cutsInto_emptyCall start rest (.of_blanks blanks)
        (.of_blanks empty), Meaning.Operand.emptyCall free ?_⟩
      rw [← label, String.ofList_toList]
      exact means_call (signals name)
  | group _ ih => exact Meaning.CutAs.group ih
  | before blank _ ih => exact ih.gap_before (.blank blank .none)
  | behind blank _ ih => exact ih.gap_behind (.blank blank .none)
  | conjunction _ ih | disjunction _ ih => exact ih.single
  | and _ _ ih ih' =>
      rw [List.append_assoc]
      exact Meaning.CutAs.and ih ih'
  | or _ _ ih ih' =>
      rw [List.append_assoc]
      exact Meaning.CutAs.or ih ih'

/-- The truth of a formula is that of its value. -/
theorem truthOf_reading {accepts : Signal → Bool} (ok : Accepting accepts)
    (signals : String → Signal) (f : Formula) :
    f.reading.truthOf signals accepts = some (accepts (f.value signals)) := by
  induction f with
  | check name => rfl
  | and left right ih ih' =>
      rw [Reading.truthOf] at ih ih'
      simp only [Reading.truthOf, Formula.reading, Reading.truth?, ih, ih', Formula.value, ok.min]
      cases accepts (left.value signals) <;> rfl
  | or left right ih ih' =>
      rw [Reading.truthOf] at ih ih'
      simp only [Reading.truthOf, Formula.reading, Reading.truth?, ih, ih', Formula.value, ok.max]
      cases accepts (left.value signals) <;> rfl

/-- The status of a formula is its value. -/
theorem status?_reading (signals : String → Signal) (f : Formula) :
    f.reading.status? signals = some (f.value signals).status := by
  have tolerant := truthOf_reading accepting_tolerant signals f
  have strict := truthOf_reading accepting_strict signals f
  rw [Reading.truthOf] at tolerant strict
  simp only [Reading.status?, tolerant, strict]
  cases f.value signals <;> rfl

end Concatenation

namespace Evaluator

open Concatenation Concatenation.Formula

variable {e : Evaluator} {f : Formula} {signals : String → Signal} {registry : Registry}

/-- An expression over signals has a result exactly if what it means is there. -/
theorem compute_of_means {expression : String} {t : Term} {b : SignalTruth}
    (time : e.budget ≠ 0) (parsed : Expression.parse? expression = some t)
    (meant : signalMeaning.means t b) (accepts : Signal → Bool) :
    (e.compute expression (signalVariables accepts)).toOption = (b accepts).map Json.bool := by
  have gives := meant accepts
  rw [compute, run_of_time time, parsed]
  dsimp only
  cases truth : b accepts with
  | none =>
      rw [truth] at gives
      obtain ⟨fault, fails⟩ := gives
      rw [resultOf, fails]
      rfl
  | some value =>
      rw [truth] at gives
      rw [gives]
      rfl

/-- What comes to a status over signals is an expression. -/
theorem exists_term_of_fold {expression : String} {s : Status} (time : e.budget ≠ 0)
    (comes : e.fold expression = .ok s) : ∃ t, Expression.parse? expression = some t := by
  obtain ⟨tolerant, computed, -⟩ := bind_eq_ok_iff.mp comes
  rw [compute, run_of_time time] at computed
  cases parsed : Expression.parse? expression with
  | none =>
      rw [parsed] at computed
      cases computed
  | some t => exact ⟨t, rfl⟩

/-- Two evaluations single out the status that an expression means. -/
theorem fold_of_means {expression : String} {t : Term} {g : Reading} (time : e.budget ≠ 0)
    (parsed : Expression.parse? expression = some t)
    (meant : signalMeaning.means t (g.truthOf signals)) :
    (e.fold expression).toOption = g.status? signals := by
  have tolerant := compute_of_means time parsed meant (· != .red)
  have strict := compute_of_means time parsed meant (· == .green)
  rw [Reading.truthOf] at tolerant strict
  rw [fold, Reading.status?]
  generalize e.compute expression (signalVariables (· != .red)) = first at tolerant ⊢
  generalize e.compute expression (signalVariables (· == .green)) = second at strict ⊢
  cases first with
  | error failure =>
      rw [Option.map_eq_none_iff.mp tolerant.symm]
      rfl
  | ok result =>
      obtain ⟨truth, holds, rfl⟩ := Option.map_eq_some_iff.mp tolerant.symm
      rw [holds]
      cases truth with
      | false => rfl
      | true =>
          cases second with
          | error failure =>
              have none := Option.map_eq_none_iff.mp strict.symm
              simp only [none]
              rfl
          | ok result =>
              obtain ⟨truth, holds, rfl⟩ := Option.map_eq_some_iff.mp strict.symm
              simp only [holds]
              cases truth <;> rfl

/-- A text over signals comes to the status of what it is read as. -/
theorem fold_of_reading {expression : String} {g : Reading} (time : e.budget ≠ 0)
    (written : Reading.Written (spellSignal signals) .disjunction g expression.toList) :
    (e.fold expression).toOption = g.status? signals := by
  obtain ⟨t, parsed, meant⟩ := Meaning.CutAs.parse? (cutAs_of_written written)
  exact fold_of_means time parsed meant

/-- A formula over signals comes to its value. -/
theorem fold_of_written {expression : String} (time : e.budget ≠ 0)
    (written : Reading.Written (spellSignal signals) .disjunction f.reading expression.toList) :
    e.fold expression = .ok (f.value signals).status := by
  have comes := fold_of_reading time written
  rw [status?_reading] at comes
  cases result : e.fold expression with
  | error failure =>
      rw [result] at comes
      cases comes
  | ok status =>
      rw [result] at comes
      exact congrArg Except.ok (Option.some.inj comes)

/-- **A concatenation comes to the value of the formula that it is written as**, in which `&&` takes
the worse signal and `||` the better one. It depends on no result but those of the names in it. -/
theorem concatenate_of_written {text : String}
    (written : Written String.toList .disjunction f text.toList)
    (named : ∀ name ∈ f.names, Configuration.isName name = true)
    (known : ∀ name ∈ f.names, ∃ result, registry.find? name = some result ∧
      result.status.signal? = some (signals name)) (time : e.budget ≠ 0) :
    e.concatenate text registry = .ok ⟨text, (f.value signals).status⟩ ∧
      ∀ other : Registry, (∀ name ∈ f.names, other.find? name = registry.find? name) →
        e.concatenate text other = e.concatenate text registry := by
  have comes (r : Registry) (known : ∀ name ∈ f.names, ∃ result, r.find? name = some result ∧
      result.status.signal? = some (signals name)) :
      e.concatenate text r = .ok ⟨text, (f.value signals).status⟩ := by
    have signal (name : String) (member : name ∈ f.names) :
        signalOf r name = .ok (signals name) := by
      obtain ⟨result, found, signal⟩ := known name member
      simp only [signalOf, found, signal]
    obtain ⟨expression, expanded, written⟩ := expand_of_written written named signal
    rw [concatenate, expanded, ok_bind, fold_of_written time written]
    rfl
  refine ⟨comes registry known, fun other same => ?_⟩
  rw [comes registry known]
  exact comes other fun name member => same name member ▸ known name member

/-- `GREEN` may be the name of a check that is `RED`, and one name may start with another. -/
theorem concatenate_of_written_names :
    let text := "(a-b ||\ta)&& ( (GREEN)\n||a)"
    let f : Formula := .and (.or (.check "a-b") (.check "a")) (.or (.check "GREEN") (.check "a"))
    let result (s : Signal) : CheckResult := ⟨"$", "$", s.status, true, []⟩
    let registry : Registry :=
      ⟨[("GREEN", result .red), ("a", result .yellow), ("a-b", result .green)]⟩
    Written String.toList .disjunction f text.toList ∧
      Evaluator.concatenate ⟨false, 1, .none⟩ text registry = .ok ⟨text, .yellow⟩ := by
  intro text f result registry
  let signals (name : String) : Signal :=
    if name = "GREEN" then .red else if name = "a" then .yellow else .green
  have written : Written String.toList .disjunction f text.toList := by
    have check (name : String) : Written String.toList .conjunction (.check name) name.toList :=
      (Written.check name).conjunction
    have left := ((check "a-b").behind (c := ' ') rfl).disjunction.or
      ((check "a").before (c := '\t') rfl).disjunction
    have right := ((check "GREEN").disjunction.group.before (c := ' ') rfl).conjunction
    have right := (right.behind (c := '\n') rfl).disjunction.or (check "a").disjunction
    have both := left.group.conjunction.and (right.group.before (c := ' ') rfl).conjunction
    refine Eq.subst (motive := Written String.toList .disjunction f) ?_ both.disjunction
    decide +kernel
  refine ⟨written, ?_⟩
  have known : ∀ name ∈ f.names, ∃ result, registry.find? name = some result ∧
      result.status.signal? = some (signals name) := by
    intro name member
    have : name = "a-b" ∨ name = "a" ∨ name = "GREEN" ∨ name = "a" := by
      simpa [f, Formula.names] using member
    rcases this with rfl | rfl | rfl | rfl <;> exact ⟨_, rfl, rfl⟩
  exact (concatenate_of_written written (by decide) known (by decide)).1

end Evaluator

end QualityGate
