import QualityGate.Expression.Arithmetic

/-!
# Terms

The structure of an expression. The forms that walk over a list or over the keys of a map bind a
name in their parts; they are written as calls such as `xs.all(x, x > 0)` but are no functions.
-/

namespace QualityGate.Expression

/-- How a walk over elements makes its result from a test of each. -/
inductive Walk where
  /-- Whether every element passes. -/
  | all
  /-- The first true result, or else the last one. -/
  | exists
  /-- Whether exactly one element passes. -/
  | existsOne
  /-- The elements that pass. -/
  | filter
  /-- The results themselves. -/
  | map
deriving DecidableEq

/-- The structure of an expression. -/
inductive Term where
  | literal (v : Value)
  | name (x : String)
  | select (t : Term) (field : String)
  /-- Whether a map has a field. -/
  | has (t : Term) (field : String)
  | index (t i : Term)
  | call (f : String) (args : List Term)
  /-- The call of a function with the value of a term before its point. -/
  | invoke (t : Term) (f : String) (args : List Term)
  | not (t : Term)
  | negate (t : Term)
  | binary (op : Operator) (left right : Term)
  | and (left right : Term)
  | or (left right : Term)
  | conditional (test thenTerm elseTerm : Term)
  | list (items : List Term)
  | map (entries : List (Term × Term))
  /-- The construction of a message. There are no kinds of messages, so its fields are not kept. -/
  | message (kind : List String)
  | walk (mode : Walk) (range : Term) (x : String) (body : Term)
  /-- The results of `body` for the elements that pass `test`. -/
  | mapWhere (range : Term) (x : String) (test body : Term)

end QualityGate.Expression
