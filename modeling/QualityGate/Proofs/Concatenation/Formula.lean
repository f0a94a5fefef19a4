import QualityGate.Concatenation

/-!
# Formulas over checks

A formula joins names of checks by `and` and `or`. For the signals of the checks it has a value, in
which `and` takes the worse signal of its sides and `or` the better one.

`Formula.Written` says which texts a formula is written as. Blanks may stand between all parts, and
parentheses around every part; a conjunction needs none inside of a disjunction, and neither does a
chain of one connective, however it is joined.
-/

namespace QualityGate.Concatenation

/-- A formula over the names of checks. -/
inductive Formula where
  | check (name : String)
  | and (left right : Formula)
  | or (left right : Formula)

namespace Formula

/-- The names in a formula, in order. -/
def names : Formula → List String
  | check name => [name]
  | and left right => left.names ++ right.names
  | or left right => left.names ++ right.names

/-- The value of a formula for the signals of the checks. -/
def value (signals : String → Signal) : Formula → Signal
  | check name => signals name
  | and left right => min (left.value signals) (right.value signals)
  | or left right => max (left.value signals) (right.value signals)

/-- How tightly the parts of a text hold together, from tightest to loosest. -/
inductive Strength where
  | operand
  | conjunction
  | disjunction

/-- The texts that a formula is written as, where `spell` says how the name of a check is. -/
inductive Written (spell : String → List Char) : Strength → Formula → List Char → Prop where
  | check (name : String) : Written spell .operand (.check name) (spell name)
  | group {f : Formula} {cs : List Char} (inner : Written spell .disjunction f cs) :
      Written spell .operand f ('(' :: cs ++ [')'])
  | before {s : Strength} {f : Formula} {cs : List Char} {c : Char}
      (blank : Expression.Lexeme.isBlank c = true) (text : Written spell s f cs) :
      Written spell s f (c :: cs)
  | behind {s : Strength} {f : Formula} {cs : List Char} {c : Char}
      (blank : Expression.Lexeme.isBlank c = true) (text : Written spell s f cs) :
      Written spell s f (cs ++ [c])
  | conjunction {f : Formula} {cs : List Char} (only : Written spell .operand f cs) :
      Written spell .conjunction f cs
  | and {f g : Formula} {cs ds : List Char} (left : Written spell .conjunction f cs)
      (right : Written spell .conjunction g ds) :
      Written spell .conjunction (.and f g) (cs ++ Connective.and.chars ++ ds)
  | disjunction {f : Formula} {cs : List Char} (only : Written spell .conjunction f cs) :
      Written spell .disjunction f cs
  | or {f g : Formula} {cs ds : List Char} (left : Written spell .disjunction f cs)
      (right : Written spell .disjunction g ds) :
      Written spell .disjunction (.or f g) (cs ++ Connective.or.chars ++ ds)

end Formula

end QualityGate.Concatenation
