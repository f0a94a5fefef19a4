import QualityGate.Condition.Judgement
import QualityGate.Proofs.Evaluator
import QualityGate.Proofs.Expression.Capture
import QualityGate.Proofs.Failure

/-!
# Tokens as variables

A condition is judged with the name of a documented variable in place of its token, and any other
identifier bound to the same value would do as well (`Evaluator.judge_of_captureFree`), as long as
the token stands for a variable: it is an identifier by itself, neither a function nor a field, and
no walk binds the name that takes its place around it. Apart from that a condition may use the names
of both variables as it likes.
-/

namespace QualityGate

open Expression (Identifier Renaming)

/-- The failure with another text of the expression that failed. -/
def Failure.restate (text : String) : Failure → Failure
  | .outOfTime _ timeout => .outOfTime text timeout
  | .unreadable _ => .unreadable text
  | .faulty _ fault => .faulty text fault
  | failure => failure

namespace Condition

variable {condition : String} {r : Reference} {z : Identifier} {names : List String}

/-- What a token stands for: the first of its values or `null`, or the list of all of them if it
stands before a call of `includes`. -/
def Reference.standsFor (r : Reference) (values : List Json) : Json :=
  if r.membership then .array values else values.head?.getD .null

/-- The name that takes the place of a token, as an identifier. -/
def Reference.identifier (r : Reference) : Identifier where
  name := r.name
  is_name := by
    unfold Reference.name
    split <;> decide
  free := by
    unfold Reference.name
    split <;> decide

/-- The name of a documented variable in place of another identifier. -/
def Reference.renaming (r : Reference) (z : Identifier) : Renaming := ⟨z, r.identifier⟩

/-- The variables of conditions that have one of the given names. -/
def bindingsOf (names : List String) (values : List Json) : List (String × Json) :=
  (bindings values).filter fun b => b.1 ∈ names

/-- Whether a name may stand free in a condition with an identifier in place of its token: the
identifier, and all names that stay, but of the documented variables only the given ones. -/
def Reference.mayStandFree (r : Reference) (z : Identifier) (names : List String) (x : String) :
    Bool :=
  x = z.name || ((r.renaming z).fixes x && (x ∈ names || x ∉ [valueName, valuesName]))

/-- Whether the token of a condition stands for a variable, with an identifier in its place, and the
condition itself uses no documented variables but the given ones. -/
structure CaptureFree (r : Reference) (condition : String) (z : Identifier)
    (names : List String) : Prop where
  /-- The token is an identifier by itself, wherever it is one of the lexemes that mean
  something. -/
  alone : Expression.Lexeme.tokens? (r.substitute condition r.name).toList =
    (Expression.Lexeme.tokens? (r.substitute condition z.name).toList).map
      (List.map (r.renaming z).lexeme)
  /-- No walk binds another name around it than before, and it is neither a function nor a field. -/
  kept : (Expression.parse? (r.substitute condition z.name)).all
    ((r.renaming z).keeps (r.mayStandFree z names) []) = true

instance : Decidable (CaptureFree r condition z names) :=
  decidable_of_iff (_ ∧ _) ⟨fun h => ⟨h.1, h.2⟩, fun h => ⟨h.alone, h.kept⟩⟩

end Condition

/-- Judges a subject by a condition with a name in place of its token. Of the variables of
conditions, those of the given names are there beside it. -/
def Evaluator.judgeWith (e : Evaluator) (z : String) (names : List String) (subject : Json)
    (condition : String) : Except Failure Judgement := do
  let r ← Condition.Reference.scan condition
  let values ← Condition.valuesOf subject r.path
  let result ← e.compute (r.substitute condition z)
    (Condition.bindingsOf names values ++ [(z, r.standsFor values)])
  return ⟨result.isTruthy, values⟩

/-! ## Expressions -/

namespace Evaluator

/-- One more variable hides an earlier one of its name. -/
theorem scopeOf_append {κ : Type} (bindings : List (String × Json)) (x : String) (v : Json)
    (host? : String → Option (Expression.Function κ)) :
    scopeOf (bindings ++ [(x, v)]) host? = (scopeOf bindings host?).bind x (.ofJson v) := by
  simp [scopeOf, Expression.Scope.bind]

/-- An expression with renamed tokens computes what the expression does, and fails where it does. -/
theorem compute_rename {m : Renaming} {free : String → Bool} {text text' : String}
    {bindings bindings' : List (String × Json)} (e : Evaluator)
    (tokens : Expression.Lexeme.tokens? text'.toList =
      (Expression.Lexeme.tokens? text.toList).map (List.map m.lexeme))
    (kept : (Expression.parse? text).all (m.keeps free []) = true)
    (scopes : m.Scopes free [] (scopeOf bindings noFunctions) (scopeOf bindings' noFunctions)) :
    e.compute text' bindings' = (e.compute text bindings).mapError (Failure.restate text') := by
  unfold compute run
  by_cases spent : e.budget = 0
  · rw [if_pos spent, if_pos spent]
    rfl
  · rw [if_neg spent, if_neg spent, Renaming.parse?_rename tokens]
    cases parsed : Expression.parse? text with
    | none => rfl
    | some t =>
        rw [parsed, Option.all_some] at kept
        dsimp only [Option.map_some]
        rw [Renaming.eval_term t scopes kept]
        generalize t.eval _ = made
        unfold resultOf
        cases made.outcome with
        | error fault => rfl
        | ok v =>
            dsimp only
            cases v.toJson? <;> rfl

end Evaluator

/-! ## Conditions -/

namespace Condition

/-- The name that takes the place of a token is bound to what the token stands for. -/
theorem read_name (r : Reference) (values : List Json) :
    (Evaluator.scopeOf (bindings values) Evaluator.noFunctions).read r.name =
      pure (.ofJson (r.standsFor values)) := by
  unfold Reference.name Reference.standsFor
  cases r.membership <;> rfl

/-- Without the variables of other names, the given ones keep their values, and what is no variable
of conditions has none. -/
theorem read_bindingsOf {x : String} (known : x ∈ names ∨ x ∉ [valueName, valuesName])
    (values : List Json) :
    (Evaluator.scopeOf (bindingsOf names values) Evaluator.noFunctions).read x =
      (Evaluator.scopeOf (bindings values) Evaluator.noFunctions).read x := by
  have other {y : String} (hidden : y ∉ names) (documented : y ∈ [valueName, valuesName]) :
      x ≠ y := by
    rintro rfl
    exact known.elim hidden (absurd documented)
  unfold bindingsOf bindings Evaluator.scopeOf Expression.Scope.read
  by_cases first : valueName ∈ names <;> by_cases second : valuesName ∈ names
  · simp [first, second]
  · have different := other second (by simp)
    simp [first, second, List.lookup_cons, beq_false_of_ne different]
  · have different := other first (by simp)
    simp [first, second, List.lookup_cons, beq_false_of_ne different]
  · have different := other first (by simp)
    have different' := other second (by simp)
    simp [first, second, List.lookup_cons, beq_false_of_ne different, beq_false_of_ne different']

/-- So is any other identifier that is bound to the same, and names that may stand free keep their
values. -/
theorem scopes_renaming (r : Reference) (z : Identifier) (names : List String)
    (values : List Json) :
    (r.renaming z).Scopes (r.mayStandFree z names) []
      (Evaluator.scopeOf (bindingsOf names values ++ [(z.name, r.standsFor values)])
        Evaluator.noFunctions)
      (Evaluator.scopeOf (bindings values) Evaluator.noFunctions) := by
  refine ⟨fun {x} kept => ?_, rfl⟩
  rw [Evaluator.scopeOf_append, Expression.Scope.read_bind]
  by_cases own : x = z.name
  · have renamed : (r.renaming z).apply x = r.name := by
      rw [own]
      exact Renaming.apply_source
    rw [if_pos own, renamed, read_name]
  · obtain ⟨fixed, known⟩ : (r.renaming z).fixes x = true ∧
        (x ∈ names ∨ x ∉ [valueName, valuesName]) := by
      simpa [Renaming.keepsName, Reference.mayStandFree, own] using kept
    rw [if_neg own, Renaming.apply_of_fixes fixed, read_bindingsOf known]

/-- Where no values are selected, no expression has failed. -/
theorem restate_of_valuesOf {subject : Json} {path : String} {failure : Failure}
    (fails : valuesOf subject path = .error failure) (text : String) :
    failure.restate text = failure := by
  unfold valuesOf at fails
  split at fails
  case isFalse => cases fails
  case isTrue =>
      unfold Path.select Path.compile at fails
      cases parsed : Path.parse? path with
      | none =>
          simp only [parsed] at fails
          cases fails
          rfl
      | some p =>
          simp only [parsed] at fails
          cases fails

end Condition

namespace Evaluator

variable {condition : String} {r : Condition.Reference} {z : Identifier} {names : List String}

/-- **Tokens are variables.** Where the token of a condition stands for a variable, the condition
comes to the same outcome as with any other identifier in place of the token, bound to what the
token stands for. Only the documented variables that the condition uses itself have to be there
beside it, and only the text of an expression that fails has another name in it. -/
theorem judge_of_captureFree (scan : Condition.Reference.scan condition = .ok r)
    (free : Condition.CaptureFree r condition z names) (e : Evaluator) (subject : Json) :
    e.judge subject condition = (e.judgeWith z.name names subject condition).mapError
      (Failure.restate (r.substitute condition r.name)) := by
  have computes (values : List Json) := compute_rename e free.alone free.kept
    (Condition.scopes_renaming r z names values)
  unfold judge judgeWith Condition.prepare
  rw [scan]
  simp only [ok_bind]
  cases selects : Condition.valuesOf subject r.path with
  | error failure =>
      exact congrArg Except.error (Condition.restate_of_valuesOf selects _).symm
  | ok values =>
      simp only [ok_bind, computes]
      cases e.compute (r.substitute condition z.name) _ <;> rfl

/-- The condition has a walk of its own over `value`, away from its token, and uses neither of the
variables of conditions. -/
theorem judge_of_captureFree_walk :
    let condition := "[1, 2].exists(value, value > 1) && $ == 3"
    let r : Condition.Reference := ⟨"$", false, [⟨35, 36⟩]⟩
    let z : Identifier := ⟨"z", by decide, by decide⟩
    let e := ofSettings false 1
    Condition.Reference.scan condition = .ok r ∧ Condition.CaptureFree r condition z [] ∧
      e.judge (.number (.integer 3)) condition =
        (e.judgeWith z.name [] (.number (.integer 3)) condition).mapError
          (Failure.restate "[1, 2].exists(value, value > 1) && value == 3") := by
  have scans : Condition.Reference.scan "[1, 2].exists(value, value > 1) && $ == 3" =
      .ok ⟨"$", false, [⟨35, 36⟩]⟩ := by rfl
  have free : Condition.CaptureFree ⟨"$", false, [⟨35, 36⟩]⟩
      "[1, 2].exists(value, value > 1) && $ == 3" ⟨"z", by decide, by decide⟩ [] := by
    decide +kernel
  exact ⟨scans, free, judge_of_captureFree scans free _ _⟩

/-- A token does not stand for a variable of its own everywhere. A walk over `value` binds it, and
`value` is there beside it; where it stands next to a letter, in a text, or in the place of a field
or a function, its name does so too. A name that the condition does not have, and that alone is
bound, answers otherwise or fails. -/
theorem judge_of_captured :
    let e := ofSettings false 1
    let holds (subject : Int) (condition : String) :=
      (e.judge (.number (.integer subject)) condition).toOption.map (·.holds)
    let holdsAs (z : String) (subject : Int) (condition : String) :=
      (e.judgeWith z [] (.number (.integer subject)) condition).toOption.map (·.holds)
    (holds 2 "[1].exists(value, value == $)" = some true ∧
      holdsAs "z" 2 "[1].exists(value, value == $)" = some false) ∧
    (holds 5 "value == $" = some true ∧ holdsAs "z" 5 "value == $" = none) ∧
    (holds 1 "[1].exists(svalue, s$ == svalue)" = some true ∧
      holdsAs "z" 1 "[1].exists(svalue, s$ == svalue)" = none) ∧
    (holds 1 "'$ ' == 'value ' && $ == 1" = some true ∧
      holdsAs "z" 1 "'$ ' == 'value ' && $ == 1" = some false) ∧
    (holds 7 "\x7b'value': 1\x7d.$ == 1" = some true ∧
      holdsAs "z" 7 "\x7b'value': 1\x7d.$ == 1" = none) ∧
    (holds 1 "[1].$ (x, x)" = none ∧ holdsAs "map" 1 "[1].$ (x, x)" = some true) := by
  decide +kernel

end Evaluator

end QualityGate
