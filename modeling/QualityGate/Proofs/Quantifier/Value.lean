import QualityGate.Proofs.Evaluator
import QualityGate.Proofs.Expression.Connectives
import QualityGate.Proofs.Expression.Conversion
import QualityGate.Proofs.Failure
import QualityGate.Proofs.Quantifier.Formula
import QualityGate.Proofs.Quantifier.Time

/-!
# What a formula over calls of quantifiers comes to

A quantified condition that a formula is written as comes to what the formula does
(`judgeQuantified_of_written`). The expression of the condition knows nothing of outcomes: it sees
truth values, and a journal keeps what its calls came to. `Shows` says how the run of an expression
shows the outcome or the failure of a formula, and its rules follow the forms of formulas.
-/

namespace QualityGate

open Expression (Run Scope Term Value Meaning Lexeme)

/-- A value that is there already goes into what follows. -/
theorem Expression.Run.pure_bind {κ α β : Type} (a : α) (f : α → Run κ β) :
    (pure a : Run κ α) >>= f = f a := rfl

namespace Evaluator

/-! ## The journal -/

section Journal

variable {calls more : List QuantifierCall}

theorem firstFailure?_append (none : firstFailure? calls = .none) :
    firstFailure? (calls ++ more) = firstFailure? more := by
  induction calls with
  | nil => rfl
  | cons call calls ih =>
      cases call with
      | ok o => exact ih none
      | error failure => exact absurd none (by simp [firstFailure?])

theorem lastPackages_of_last {o : QuantifierOutcome} (last : calls.getLast? = some (.ok o)) :
    lastPackages calls = o.packages := by
  obtain ⟨front, rfl⟩ := List.getLast?_eq_some_iff.mp last
  simp [lastPackages, Except.toOption]

end Journal

/-! ## Runs that show what a formula comes to -/

/-- Whether a run shows what a formula comes to: its value is the result of the outcome and the last
call has the packages, or it fails and the first failure of its calls is that of the formula. -/
def Shows (r : Run QuantifierCall Value) : Except Failure QuantifierOutcome → Prop
  | .ok o => r.outcome = .ok (.bool o.result) ∧ firstFailure? r.calls = .none ∧
    ∃ last : QuantifierOutcome, r.calls.getLast? = some (.ok last) ∧ last.packages = o.packages
  | .error failure => (∃ fault, r.outcome = .error fault) ∧ firstFailure? r.calls = some failure

section Rules

variable {r : Run QuantifierCall Value} {o : QuantifierOutcome}

/-- A run that makes one call shows what it comes to. -/
theorem shows_record [Readers] (q : Quantifier) (call : QuantifierCall) :
    Shows (.record call (callResult q call)) call := by
  cases call with
  | ok o => exact ⟨rfl, rfl, o, rfl, rfl⟩
  | error failure => exact ⟨⟨_, rfl⟩, rfl⟩

/-- A failed run shows its failure however it goes on. -/
theorem Shows.bind_error {failure : Failure} {next : Value → Run QuantifierCall Value}
    (first : Shows r (.error failure)) : Shows (r >>= next) (.error failure) := by
  obtain ⟨calls, outcome⟩ := r
  obtain ⟨⟨fault, rfl⟩, journal⟩ := first
  exact ⟨⟨fault, rfl⟩, journal⟩

/-- What a run goes on with shows the outcome of the whole. -/
theorem Shows.bind_ok {next : Value → Run QuantifierCall Value}
    {result : Except Failure QuantifierOutcome} (first : Shows r (.ok o))
    (second : Shows (next (.bool o.result)) result) : Shows (r >>= next) result := by
  obtain ⟨calls, outcome⟩ := r
  obtain ⟨rfl, journal, -⟩ := first
  cases result with
  | error failure =>
      obtain ⟨fails, journal'⟩ := second
      exact ⟨fails, (firstFailure?_append journal).trans journal'⟩
  | ok o' =>
      obtain ⟨value, journal', last, final, packages⟩ := second
      refine ⟨value, (firstFailure?_append journal).trans journal', last, ?_, packages⟩
      calc (calls ++ (next (.bool o.result)).calls).getLast?
          = ((next (.bool o.result)).calls.getLast?).or calls.getLast? := List.getLast?_append
        _ = some (.ok last) := by rw [final, Option.some_or]

/-- A run may give another truth value in the end. -/
theorem Shows.bind_pure {next : Value → Run QuantifierCall Value} {b : Bool}
    (first : Shows r (.ok o)) (value : next (.bool o.result) = pure (.bool b)) :
    Shows (r >>= next) (.ok ⟨b, o.packages⟩) := by
  obtain ⟨calls, outcome⟩ := r
  obtain ⟨rfl, journal, last, final, packages⟩ := first
  have whole : (⟨calls, .ok (.bool o.result)⟩ : Run QuantifierCall Value) >>= next =
      ⟨calls, .ok (.bool b)⟩ := by
    change (⟨calls ++ (next (.bool o.result)).calls, (next (.bool o.result)).outcome⟩ :
      Run QuantifierCall Value) = _
    rw [value]
    change (⟨calls ++ [], .ok (.bool b)⟩ : Run QuantifierCall Value) = _
    rw [List.append_nil]
  rw [whole]
  exact ⟨rfl, journal, last, final, packages⟩

end Rules

/-! ## Terms that mean what a formula comes to -/

/-- The scope of a quantified condition. -/
def quantifiedScope [Readers] (e : Evaluator) (items : List Json) : Scope QuantifierCall :=
  scopeOf [(Quantifier.listName, .array items)] e.quantifierFunctions

section Meanings

variable {e : Evaluator} {items : List Json}

/-- A term means what its run shows. -/
def quantifiedMeaning [Readers] (e : Evaluator) (items : List Json) :
    Meaning (Except Failure QuantifierOutcome) where
  means t result := Shows (t.eval (e.quantifiedScope items)) result
  conj a b := do
    let o ← a
    if o.result then b else return o
  disj a b := do
    let o ← a
    if o.result then return o else b
  conj_assoc a b c := by
    cases a with
    | error => rfl
    | ok o => cases h : o.result <;> simp [h]
  disj_assoc a b c := by
    cases a with
    | error => rfl
    | ok o => cases h : o.result <;> simp [h]
  and_means := by
    intro t u a b left right
    cases a with
    | error failure => exact left.bind_error
    | ok o =>
        obtain ⟨result, packages⟩ := o
        cases result with
        | false => exact left.bind_pure rfl
        | true =>
            refine left.bind_ok ?_
            cases b with
            | error failure => exact right.bind_error
            | ok o' => exact right.bind_pure rfl
  or_means := by
    intro t u a b left right
    cases a with
    | error failure => exact left.bind_error
    | ok o =>
        obtain ⟨result, packages⟩ := o
        cases result with
        | true => exact left.bind_pure rfl
        | false => exact left.bind_ok right

/-- A negation keeps the packages. -/
theorem means_not [Readers] {t : Term} {result : Except Failure QuantifierOutcome}
    (inner : (quantifiedMeaning e items).means t result) :
    (quantifiedMeaning e items).means (.not t) (do
      let o ← result
      return ⟨!o.result, o.packages⟩) := by
  cases result with
  | error failure => exact inner.bind_error
  | ok o => exact inner.bind_pure rfl

/-- A quantifier that gets a list and a text makes one call. -/
theorem quantifierFunction_of_list [Readers] (q : Quantifier) (target : Option Value) {v : Value}
    (list : v.toJson? = some (.array items)) (condition : String) :
    e.quantifierFunction q target [pure v, pure (.text condition)] =
      .record (e.quantify q items condition) (callResult q (e.quantify q items condition)) := by
  have first : Expression.argument [pure v, pure (.text condition)] 0 =
      (pure v : Run QuantifierCall Value) := rfl
  have second : Expression.argument [pure v, pure (.text condition)] 1 =
      (pure (.text condition) : Run QuantifierCall Value) := rfl
  rw [quantifierFunction, first, Run.pure_bind, second, Run.pure_bind, Expression.wantText,
    Run.pure_bind, list]

/-- A call of a quantifier on the selected values means what the quantifier comes to. -/
theorem means_call [Readers] (wellFormed : ∀ item ∈ items, item.WellFormed) (q : Quantifier)
    (condition : String) :
    (quantifiedMeaning e items).means
      (.call q.name [.name Quantifier.listName, .literal (.text condition)])
      (e.quantify q items condition) := by
  have list : (Value.list (Value.ofItems items)).toJson? = some (.array items) :=
    Value.toJson?_ofJson (v := .array items) (Json.wellFormedItems_iff.mpr wellFormed)
  have named : e.quantifierFunctions q.name = some (e.quantifierFunction q) := by
    cases q <;> rfl
  have run : Term.eval (.call q.name [.name Quantifier.listName, .literal (.text condition)])
      (e.quantifiedScope items) =
        Run.record (e.quantify q items condition)
          (callResult q (e.quantify q items condition)) := by
    have read : (e.quantifiedScope items).read Quantifier.listName =
        pure (.list (Value.ofItems items)) := rfl
    have find : (e.quantifiedScope items).find q.name = pure (e.quantifierFunction q) := by
      simp only [Scope.find, quantifiedScope, scopeOf, named]
      rfl
    simp only [Term.eval, Expression.evalEach, read, find, Expression.peek, Run.pure_bind]
    exact quantifierFunction_of_list q .none list condition
  change Shows _ _
  rw [run]
  exact shows_record q _

/-! ## Texts of formulas -/

open Concatenation.Formula (Strength)
open Quantifier (Formula)
open Quantifier.Formula (Written Spelled)

/-- The tokens of a text that a formula is written as, by how tightly it holds together. -/
def QuantifiedTokens [Readers] (e : Evaluator) (items : List Json) :
    Strength → List Lexeme → Except Failure QuantifierOutcome → Prop
  | .operand => (quantifiedMeaning e items).Operand
  | .conjunction => (quantifiedMeaning e items).Conjunction
  | .disjunction => (quantifiedMeaning e items).Disjunction

/-- The name of a quantifier is a name of expressions. -/
theorem exists_name_eq (q : Quantifier) :
    ∃ c cs, q.name.toList = c :: cs ∧ Text.isNameStart c = true ∧
      (∀ d ∈ cs, Text.isNameRest d = true) ∧ Expression.isReserved (c :: cs) = false := by
  cases q with
  | all => exact ⟨'a', ['l', 'l'], rfl, rfl, List.all_eq_true.mp rfl, rfl⟩
  | any => exact ⟨'a', ['n', 'y'], rfl, rfl, List.all_eq_true.mp rfl, rfl⟩
  | one => exact ⟨'o', ['n', 'e'], rfl, rfl, List.all_eq_true.mp rfl, rfl⟩
  | none => exact ⟨'n', ['o', 'n', 'e'], rfl, rfl, List.all_eq_true.mp rfl, rfl⟩

/-- A text that a call is written as is cut into tokens that mean what the quantifier comes to. -/
theorem cutAs_of_spelled [Readers] (wellFormed : ∀ item ∈ items, item.WellFormed) {q : Quantifier}
    {condition : String} {cs : List Char} (spelled : Spelled q condition cs) :
    Meaning.CutAs (quantifiedMeaning e items).Operand cs (e.quantify q items condition) := by
  obtain @⟨_, _, _, _, _, literal, gap₁, gap₂, gap₃, gap₄, gap₅, whole, denotes⟩ := spelled
  obtain ⟨f, fs, name, start, rest, free⟩ := exists_name_eq q
  have nonempty : literal ≠ [] := by
    intro none
    rw [none] at denotes
    cases denotes
  have list : Quantifier.listName.toList = 'r' :: ['e', 'f'] := rfl
  rw [name, list]
  refine ⟨_, Lexeme.cutsInto_call start rest rfl (List.all_eq_true.mp rfl) whole nonempty gap₁
    gap₂ gap₃ gap₄ gap₅, Meaning.Operand.call free rfl denotes ?_⟩
  rw [← name, ← list, String.ofList_toList, String.ofList_toList]
  exact means_call wellFormed q condition

/-- A text that a formula is written as is cut into tokens that mean what the formula comes to. -/
theorem cutAs_of_written [Readers] (wellFormed : ∀ item ∈ items, item.WellFormed)
    {strength : Strength} {f : Formula} {cs : List Char} (written : Written strength f cs) :
    Meaning.CutAs (QuantifiedTokens e items strength) cs
      (f.judge fun q => e.quantify q items) := by
  induction written with
  | call spelled => exact cutAs_of_spelled wellFormed spelled
  | not between _ ih => exact Meaning.CutAs.negation between ih fun t => means_not
  | group _ ih => exact Meaning.CutAs.group ih
  | before gap _ ih => exact ih.gap_before gap
  | behind gap _ ih => exact ih.gap_behind gap
  | conjunction _ ih | disjunction _ ih => exact ih.single
  | and _ _ ih ih' => exact Meaning.CutAs.and ih ih'
  | or _ _ ih ih' => exact Meaning.CutAs.or ih ih'

/-! ## Quantified conditions -/

/-- A quantified condition comes to what its term shows. -/
theorem judgeQuantified_of_means [Readers] {text : String} {t : Term}
    {result : Except Failure QuantifierOutcome} (time : e.budget ≠ 0)
    (parsed : Expression.parse? text = some t)
    (meant : (quantifiedMeaning (e.withDeadline e.timeout) items).means t result) :
    e.judgeQuantified items text = result := by
  rw [judgeQuantified]
  dsimp only
  rw [run_of_time (budget_withDeadline time), parsed]
  change Shows (t.eval (scopeOf _ _)) result at meant
  dsimp only
  generalize t.eval (scopeOf _ _) = r at meant ⊢
  cases result with
  | error failure =>
      obtain ⟨-, journal⟩ := meant
      rw [journal]
  | ok o =>
      obtain ⟨outcome, journal, last, final, packages⟩ := meant
      rw [journal, resultOf, outcome, lastPackages_of_last final, packages]
      rfl

/-- **A quantified condition comes to what the formula does that it is written as**, in which each
call is a quantifier applied to the selected values. -/
theorem judgeQuantified_of_written [Readers] {f : Formula} {text : String}
    (written : Written .disjunction f text.toList)
    (wellFormed : ∀ item ∈ items, item.WellFormed) (time : e.budget ≠ 0) :
    e.judgeQuantified items text = f.judge fun q => e.quantify q items := by
  obtain ⟨t, parsed, meant⟩ := Meaning.CutAs.parse?
    (cutAs_of_written (e := e.withDeadline e.timeout) wellFormed written)
  have bounded : (e.withDeadline e.timeout).quantify = e.quantify :=
    quantify_eq_of_time (budget_withDeadline time) time rfl
  rw [bounded] at meant
  exact judgeQuantified_of_means time parsed meant

/-- The second call would fail, but it is not made; the packages are those of the first one. -/
theorem judgeQuantified_of_written_negation :
    let text := "! ( all( ref, '\\x24 > 1') )//or\n || any(ref, '')"
    let items : List Json := [.number (.integer 1), .number (.integer 2)]
    ∃ o, Evaluator.judgeQuantified ⟨false, 1, .none⟩ items text = .ok o ∧ o.result = true ∧
      o.packages.map List.length = some 1 := by
  intro text items
  have blank : Lexeme.Gap [' '] := .blank rfl .none
  have comment : Lexeme.Gap ('/' :: '/' :: ['o', 'r'] ++ '\n' :: []) := .comment (by decide) .none
  have all : Spelled .all "$ > 1" ("all".toList ++ [] ++ '(' :: [' '] ++ "ref".toList ++ [] ++
      ',' :: [' '] ++ "'\\x24 > 1'".toList ++ [] ++ [')']) :=
    .intro .none blank .none blank .none (by decide +kernel) (by decide +kernel)
  have any : Spelled .any "" ("any".toList ++ [] ++ '(' :: [] ++ "ref".toList ++ [] ++
      ',' :: [' '] ++ "''".toList ++ [] ++ [')']) :=
    .intro .none .none .none blank .none (by decide +kernel) (by decide +kernel)
  have inner := ((Written.call all).behind blank).before blank
  have negation := ((inner.conjunction.disjunction.not blank).behind comment).behind blank
  have call := (Written.call any).before blank
  have whole := negation.conjunction.disjunction.or call.conjunction.disjunction
  have written : Written .disjunction (.or (.not (.call .all "$ > 1")) (.call .any ""))
      text.toList := by
    refine Eq.subst (motive := Written .disjunction _) ?_ whole
    decide +kernel
  have wellFormed : ∀ item ∈ items, item.WellFormed := by
    rintro item member
    have : item = .number (.integer 1) ∨ item = .number (.integer 2) := by
      simpa [items] using member
    rcases this with rfl | rfl <;> trivial
  rw [judgeQuantified_of_written written wellFormed (by decide)]
  have seen : ((Formula.judge (fun q => Evaluator.quantify ⟨false, 1, .none⟩ q items)
      (.or (.not (.call .all "$ > 1")) (.call .any ""))).toOption.map fun o =>
        (o.result, o.packages.map List.length)) = some (true, some 1) := by
    decide +kernel
  obtain ⟨o, ok, eq⟩ := exists_ok_of_map_toOption seen
  exact ⟨o, ok, congrArg Prod.fst eq, congrArg Prod.snd eq⟩

end Meanings

end Evaluator

end QualityGate
