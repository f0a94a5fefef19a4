import QualityGate.Expression.Value

/-!
# Faults of expressions

What can go wrong while an expression is evaluated, by cause, and the one place that words it.
-/

namespace QualityGate.Expression

/-- A cause for which an evaluation fails. -/
inductive Fault where
  | undeclared (name : String)
  | notComparable (left right : Value)
  | unsupportedBinary (operator : String) (left right : Value)
  | unsupportedUnary (operator : String) (operand : Value)
  | overflow (operator : String) (left right : Value)
  | divisionByZero (dividend : Value)
  | remainderByZero (dividend : Value)
  | badListIndex (index : Value)
  | badMapIndex (index : Value)
  | badIndex (value index : Value)
  | badKey (key : Value)
  | noSuchKey (key : String)
  | missingArgument (expected given : Nat)
  | missingReceiver
  | unexpectedKind (value : Value) (wanted : String)
  | failedFunction (name reason : String)
  | unsupportedResult (value : Value)
  /-- The evaluation broke off at a place that has no meaning. -/
  | abandoned

/-- The wording of a fault. -/
def Fault.message : Fault → String
  | undeclared name => "Undeclared reference to '" ++ name ++ "'"
  | notComparable l r => l.describe ++ " can not be compared to " ++ r.describe
  | unsupportedBinary op l r =>
    "Unsupported binary operator '" ++ op ++ "': " ++ l.describe ++ ", " ++ r.describe
  | unsupportedUnary op v => "Unsupported unary operator '" ++ op ++ "': " ++ v.describe
  | overflow op l r => "Overflow from binary operator '" ++ op ++ "': " ++ l.describe ++ ", "
      ++ r.describe
  | divisionByZero v => "Division by zero of " ++ v.describe
  | remainderByZero v => "Remainder by zero of " ++ v.describe
  | badListIndex i => "Cannot use value as list index: " ++ i.describe
  | badMapIndex i => "Cannot use value as map index: " ++ i.describe
  | badIndex v i => "Cannot use value " ++ v.describe ++ " to index " ++ i.describe
  | badKey k => "Unable to use value '" ++ k.describe ++ "' as a key"
  | noSuchKey k => "No such key: " ++ k
  | missingArgument expected given => "Invalid argument count: expected " ++ toString expected
      ++ ", got " ++ toString given
  | missingReceiver => "Missing argument or target"
  | unexpectedKind v wanted =>
    "Unexpected type: got '" ++ v.describe ++ "', want '" ++ wanted ++ "'"
  | failedFunction name reason => "Error executing function '" ++ name ++ "': " ++ reason
  | unsupportedResult v => "unsupported result value '" ++ v.describe ++ "'"
  | abandoned => "sandbox worker terminated unexpectedly"

end QualityGate.Expression
