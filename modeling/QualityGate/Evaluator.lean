import QualityGate.Expression.Conversion
import QualityGate.Expression.Evaluation
import QualityGate.Failure

/-!
# Evaluators

An `Evaluator` holds the settings under which expressions are evaluated: how thoroughly quantifiers
search, and how much time there is. Every expression runs by itself and sees nothing but the
variables and functions that it is given.

Time is an input. An evaluator knows how long one expression may take and how much is left until its
deadline, and nothing is evaluated once either is zero. Evaluation itself takes no time here, so an
expression that is started also ends.
-/

namespace QualityGate

open Expression (Value Scope Function Term Run)

/-- The settings of evaluations. Times are in nanoseconds. -/
structure Evaluator where
  /-- Whether quantifiers go on after a failing element, so that all of them are found. -/
  exhaustive : Bool
  /-- The time that one expression may take. -/
  timeout : Nat
  /-- The time left until the deadline, if there is one. -/
  timeLeft : Option Nat

namespace Evaluator

/-- The evaluator without a deadline. -/
def ofSettings (exhaustive : Bool) (timeout : Nat) : Evaluator := ⟨exhaustive, timeout, none⟩

/-- The evaluator bounded by one more deadline, so far away. An earlier one that is in place already
stays. -/
def withDeadline (e : Evaluator) (left : Nat) : Evaluator :=
  { e with timeLeft := some (match e.timeLeft with
    | some current => min current left
    | none => left) }

/-- The time that there is for an expression. -/
def budget (e : Evaluator) : Nat :=
  match e.timeLeft with
  | some left => min left e.timeout
  | none => e.timeout

/-- Fails if the deadline has passed. The failure names the given text. -/
def ensureTimeLeft (e : Evaluator) (text : String) : Except Failure Unit :=
  if e.timeLeft = some 0 then .error (.outOfTime text e.timeout) else .ok ()

/-- Whether a text is an expression. -/
def checkSyntax (expression : String) : Except Failure Unit :=
  match Expression.parse? expression with
  | some _ => .ok ()
  | none => .error (.unreadable expression)

/-- The scope with the given variables, of which later ones hide earlier ones, and with functions of
the caller beside those that every expression may call. -/
def scopeOf {κ : Type} (bindings : List (String × Json)) (host? : String → Option (Function κ)) :
    Scope κ where
  bindings := bindings.reverse.map fun (x, v) => (x, Value.ofJson v)
  function? name := host? name <|> Expression.standard? name

/-- The JSON result of the run of an expression. -/
def resultOf {κ : Type} (expression : String) (r : Run κ Value) : Except Failure Json :=
  match r.outcome with
  | .error fault => .error (.faulty expression fault)
  | .ok v => match v.toJson? with
    | some result => .ok result
    | none => .error (.faulty expression (.unsupportedResult v))

/-- Evaluates an expression with functions of the caller. Returns the calls of those functions that
it made, and its result. -/
def run {κ : Type} (e : Evaluator) (expression : String) (bindings : List (String × Json))
    (host? : String → Option (Function κ)) : List κ × Except Failure Json :=
  if e.budget = 0 then ([], .error (.outOfTime expression e.timeout))
  else match Expression.parse? expression with
    | none => ([], .error (.unreadable expression))
    | some t =>
      let r := t.eval (scopeOf bindings host?)
      (r.calls, resultOf expression r)

/-- The functions of a caller that has none. -/
def noFunctions : String → Option (Function Empty) := fun _ => none

/-- Evaluates an expression. -/
def compute (e : Evaluator) (expression : String) (bindings : List (String × Json)) :
    Except Failure Json :=
  (e.run expression bindings noFunctions).2

end Evaluator

end QualityGate
