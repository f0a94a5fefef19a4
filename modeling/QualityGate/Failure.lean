import QualityGate.Expression.Fault

/-!
# Failures

Why a condition, a check or a formula cannot be judged. Absent or empty data are no failures: checks
turn them into statuses. What is listed here is a mistake of the author, an expression that failed,
or time that ran out.

A failure names the text that is no path or no expression. Its message ends with the reason that the
reader of that text gives in words of its own: `Readers` stands for these words, and what is said
here of messages holds whatever they are.
-/

namespace QualityGate

/-- What the readers of paths and expressions say of a text that they refuse. -/
class Readers where
  /-- Why a text is no path, if a reason is given. -/
  pathReason? : String → Option String
  /-- Why a text is no expression, if a reason is given. -/
  expressionReason? : String → Option String

/-- Readers that give no reasons. -/
instance (priority := low) Readers.silent : Readers := ⟨fun _ => none, fun _ => none⟩

/-- A cause for which something cannot be judged. -/
inductive Failure where
  /-- The condition has no reference token. -/
  | noReference (condition : String)
  /-- The condition has tokens with different paths. -/
  | severalReferences (condition : String) (paths : List String)
  /-- The expression did not end within its time, which is given in nanoseconds. -/
  | outOfTime (expression : String) (timeout : Nat)
  /-- The text is no expression. -/
  | unreadable (expression : String)
  /-- The evaluation of the expression failed. -/
  | faulty (expression : String) (fault : Expression.Fault)
  /-- A formula names a check that has no result. -/
  | unknownCheck (name : String)
  /-- A formula names a check whose status is no signal. -/
  | unsupportedStatus (name status : String)
  /-- The text is no path. -/
  | invalidPath (path : String)

namespace Failure

/-- A remark with the reason for it, if one is given. -/
def remark (text : String) : Option String → String
  | some reason => text ++ ": " ++ reason
  | none => text

variable [Readers]

/-- What is wrong with an expression that is not read. -/
def unreadableDetail (expression : String) : String :=
  remark "could not parse expression" (Readers.expressionReason? expression)

/-- What is wrong with an expression that is unreadable or fails, apart from its text. -/
def detail? : Failure → Option String
  | unreadable expression => some (unreadableDetail expression)
  | faulty _ fault => some fault.message
  | _ => none

/-- The whole milliseconds of a timeout. -/
def milliseconds (timeout : Nat) : Nat := timeout / 1_000_000

/-- The wording of a failure. -/
def message : Failure → String
  | noReference condition => "condition '" ++ condition ++ "' contains no reference token"
  | severalReferences condition paths => "condition '" ++ condition
      ++ "' references more than one path: " ++ String.intercalate ", " paths
  | outOfTime expression timeout => "expression '" ++ expression ++ "' did not complete within "
      ++ toString (milliseconds timeout) ++ " ms"
  | unreadable expression =>
    "could not evaluate expression '" ++ expression ++ "': " ++ unreadableDetail expression
  | faulty expression fault =>
    "could not evaluate expression '" ++ expression ++ "': " ++ fault.message
  | unknownCheck name => "concatenation references unknown check '" ++ name ++ "'"
  | unsupportedStatus name status => "check '" ++ name ++ "' has status '" ++ status
      ++ "', but concatenation only accepts GREEN, YELLOW or RED"
  | invalidPath path => remark ("invalid path '" ++ path ++ "'") (Readers.pathReason? path)

end Failure

end QualityGate
