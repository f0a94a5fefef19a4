import QualityGate.Proofs.Concatenation.Formula
import QualityGate.Proofs.Expression.Literal
import QualityGate.Quantifier.Condition

/-!
# Formulas over calls of quantifiers

A formula joins calls of quantifiers by `not`, `and` and `or`. `Formula.judge` is what it comes to
when its calls are made one after the other, from left to right.

`Formula.Written` says which texts a formula is written as. Blanks and comments may stand between
all tokens, and parentheses around every part. The element condition of a call stands there as a
text literal, in any of the forms that such literals have.
-/

namespace QualityGate.Quantifier

open Concatenation.Formula (Strength)
open Expression (Lexeme Literal.text?)
open Expression.Lexeme (Gap)

/-- A formula over calls of quantifiers with element conditions. -/
inductive Formula where
  | call (q : Quantifier) (condition : String)
  | not (inner : Formula)
  | and (left right : Formula)
  | or (left right : Formula)

namespace Formula

/-- What a formula comes to, where `answer` says what its calls come to. The right side of a
connective is passed over if the left one settles the result. The packages are those of the last
call that was made, and the first failure is the failure of the whole. -/
def judge (answer : Quantifier → String → Except Failure QuantifierOutcome) :
    Formula → Except Failure QuantifierOutcome
  | call q condition => answer q condition
  | not inner => do
    let o ← inner.judge answer
    return ⟨!o.result, o.packages⟩
  | and left right => do
    let o ← left.judge answer
    if o.result then right.judge answer else return o
  | or left right => do
    let o ← left.judge answer
    if o.result then return o else right.judge answer

/-- The texts that a call of a quantifier on the selected values is written as. -/
inductive Spelled (q : Quantifier) (condition : String) : List Char → Prop where
  | intro {g₁ g₂ g₃ g₄ g₅ literal : List Char} (gap₁ : Gap g₁) (gap₂ : Gap g₂) (gap₃ : Gap g₃)
      (gap₄ : Gap g₄) (gap₅ : Gap g₅) (whole : Lexeme.textLength literal = literal.length)
      (denotes : Literal.text? literal = some condition) :
      Spelled q condition (q.name.toList ++ g₁ ++ '(' :: g₂ ++ listName.toList ++ g₃ ++
        ',' :: g₄ ++ literal ++ g₅ ++ [')'])

/-- The texts that a formula is written as. -/
inductive Written : Strength → Formula → List Char → Prop where
  | call {q : Quantifier} {condition : String} {cs : List Char} (text : Spelled q condition cs) :
      Written .operand (.call q condition) cs
  | not {f : Formula} {gap cs : List Char} (between : Gap gap)
      (inner : Written .disjunction f cs) :
      Written .operand (.not f) ('!' :: gap ++ '(' :: cs ++ [')'])
  | group {f : Formula} {cs : List Char} (inner : Written .disjunction f cs) :
      Written .operand f ('(' :: cs ++ [')'])
  | before {s : Strength} {f : Formula} {gap cs : List Char} (before : Gap gap)
      (text : Written s f cs) : Written s f (gap ++ cs)
  | behind {s : Strength} {f : Formula} {gap cs : List Char} (behind : Gap gap)
      (text : Written s f cs) : Written s f (cs ++ gap)
  | conjunction {f : Formula} {cs : List Char} (only : Written .operand f cs) :
      Written .conjunction f cs
  | and {f g : Formula} {cs ds : List Char} (left : Written .conjunction f cs)
      (right : Written .conjunction g ds) :
      Written .conjunction (.and f g) (cs ++ '&' :: '&' :: ds)
  | disjunction {f : Formula} {cs : List Char} (only : Written .conjunction f cs) :
      Written .disjunction f cs
  | or {f g : Formula} {cs ds : List Char} (left : Written .disjunction f cs)
      (right : Written .disjunction g ds) :
      Written .disjunction (.or f g) (cs ++ '|' :: '|' :: ds)

end Formula

end QualityGate.Quantifier
