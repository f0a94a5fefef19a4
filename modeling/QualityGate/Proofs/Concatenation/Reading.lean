import QualityGate.Configuration.Basic
import QualityGate.Proofs.Concatenation.Formula

/-!
# What concatenations are read as

A concatenation becomes an expression, and expressions are more than formulas: a name with empty
parentheses behind it is the call of a function there. No function has the name of a signal, so a
`Reading` has no truth once such a call is made. It can go unnoticed, since the right side of a
connective is passed over where the left one settles the truth.

`Reading.Written` says which texts are read so. It differs from the texts of formulas only in the
calls, and every formula is a reading (`Formula.Written.reading`).
-/

namespace QualityGate.Concatenation

/-- What a concatenation is read as: a formula over the names of checks, in which empty parentheses
may stand behind a name. -/
inductive Reading where
  | check (name : String)
  /-- A name with empty parentheses behind it. -/
  | call (name : String)
  | and (left right : Reading)
  | or (left right : Reading)

namespace Reading

/-- The names in a reading, in order. -/
def names : Reading → List String
  | check name | call name => [name]
  | and left right => left.names ++ right.names
  | or left right => left.names ++ right.names

/-- The truth of a reading for the truth of its names, unless a call is made. -/
def truth? (accepts : String → Bool) : Reading → Option Bool
  | check name => some (accepts name)
  | call _ => none
  | and left right => do
    if ← left.truth? accepts then right.truth? accepts else return false
  | or left right => do
    if ← left.truth? accepts then return true else right.truth? accepts

/-- The status of a reading for the signals of the checks, unless a call is made. It takes the truth
without `RED`, and, if that holds, the truth of `GREEN` alone. -/
def status? (signals : String → Signal) (f : Reading) : Option Status := do
  let tolerant ← f.truth? fun name => signals name != .red
  if tolerant then
    let strict ← f.truth? fun name => signals name == .green
    return if strict then .green else .yellow
  else return .red

open Formula (Strength)

/-- Whether all characters are blanks of expressions. -/
def Blanks (gap : List Char) : Prop := ∀ c ∈ gap, Expression.Lexeme.isBlank c = true

/-- The texts that are read so, where `spell` says how the name of a check is. -/
inductive Written (spell : String → List Char) : Strength → Reading → List Char → Prop where
  | check {name : String} (named : Configuration.isName name = true) :
      Written spell .operand (.check name) (spell name)
  | call {name : String} {gap inside : List Char} (named : Configuration.isName name = true)
      (blanks : Blanks gap) (empty : Blanks inside) :
      Written spell .operand (.call name) (spell name ++ gap ++ '(' :: inside ++ [')'])
  | group {f : Reading} {cs : List Char} (inner : Written spell .disjunction f cs) :
      Written spell .operand f ('(' :: cs ++ [')'])
  | before {s : Strength} {f : Reading} {cs : List Char} {c : Char}
      (blank : Expression.Lexeme.isBlank c = true) (text : Written spell s f cs) :
      Written spell s f (c :: cs)
  | behind {s : Strength} {f : Reading} {cs : List Char} {c : Char}
      (blank : Expression.Lexeme.isBlank c = true) (text : Written spell s f cs) :
      Written spell s f (cs ++ [c])
  | conjunction {f : Reading} {cs : List Char} (only : Written spell .operand f cs) :
      Written spell .conjunction f cs
  | and {f g : Reading} {cs ds : List Char} (left : Written spell .conjunction f cs)
      (right : Written spell .conjunction g ds) :
      Written spell .conjunction (.and f g) (cs ++ Connective.and.chars ++ ds)
  | disjunction {f : Reading} {cs : List Char} (only : Written spell .conjunction f cs) :
      Written spell .disjunction f cs
  | or {f g : Reading} {cs ds : List Char} (left : Written spell .disjunction f cs)
      (right : Written spell .disjunction g ds) :
      Written spell .disjunction (.or f g) (cs ++ Connective.or.chars ++ ds)

/-- The names in a reading are names of checks. -/
theorem named_of_written {spell : String → List Char} {s : Strength} {f : Reading} {cs : List Char}
    (written : Written spell s f cs) : ∀ name ∈ f.names, Configuration.isName name = true := by
  induction written with
  | check named | call named _ _ => simpa [names] using named
  | group _ ih | before _ _ ih | behind _ _ ih | conjunction _ ih | disjunction _ ih => exact ih
  | and _ _ ih ih' | or _ _ ih ih' =>
      rw [names, List.forall_mem_append]
      exact ⟨ih, ih'⟩

end Reading

/-! ## Formulas as readings -/

namespace Formula

/-- A formula as a reading without calls. -/
def reading : Formula → Reading
  | check name => .check name
  | and left right => .and left.reading right.reading
  | or left right => .or left.reading right.reading

@[simp] theorem names_reading (f : Formula) : f.reading.names = f.names := by
  induction f with
  | check name => rfl
  | and left right ih ih' | or left right ih ih' => simp [reading, Reading.names, names, ih, ih']

/-- A text that a formula is written as is read as that formula. -/
theorem Written.reading {spell : String → List Char} {s : Strength} {f : Formula} {cs : List Char}
    (written : Written spell s f cs)
    (named : ∀ name ∈ f.names, Configuration.isName name = true) :
    Reading.Written spell s f.reading cs := by
  induction written with
  | check name => exact .check (named name (by simp [names]))
  | group _ ih => exact (ih named).group
  | before blank _ ih => exact (ih named).before blank
  | behind blank _ ih => exact (ih named).behind blank
  | conjunction _ ih => exact (ih named).conjunction
  | disjunction _ ih => exact (ih named).disjunction
  | and _ _ ih ih' =>
      rw [names, List.forall_mem_append] at named
      exact (ih named.1).and (ih' named.2)
  | or _ _ ih ih' =>
      rw [names, List.forall_mem_append] at named
      exact (ih named.1).or (ih' named.2)

end Formula

end QualityGate.Concatenation
