import QualityGate.Check.Result
import QualityGate.Text.Search

/-!
# Concatenations

A concatenation combines the statuses of checks into one. It is a text of check names joined by `&&`
and `||`, with parentheses. Each name is replaced by the signal of its check, and the expression
that results is evaluated twice: if it is false with `RED` alone taken as false, a `RED` decided and
the status is `RED`; if it is false with `YELLOW` taken as false too, the status is `YELLOW`; and
otherwise it is `GREEN`.
-/

namespace QualityGate

/-- The results of checks by name. Of two results of a name the first counts. -/
structure Registry where
  results : List (String × CheckResult)

namespace Registry

/-- The registry without results. -/
def empty : Registry := ⟨[]⟩

/-- The result of the check of a name. -/
def find? (r : Registry) (name : String) : Option CheckResult := r.results.lookup name

/-- The registry with one more result, which takes the place of an earlier one of its name. -/
def insert (r : Registry) (name : String) (result : CheckResult) : Registry :=
  ⟨(name, result) :: r.results.filter fun entry => entry.1 != name⟩

/-- The registry without the result of a name. -/
def erase (r : Registry) (name : String) : Registry :=
  ⟨r.results.filter fun entry => entry.1 != name⟩

end Registry

/-- The status that a concatenation comes to. -/
structure ConcatenationResult where
  condition : String
  status : Status

namespace Concatenation

/-- A sign between two segments. -/
inductive Connective where
  | and
  | or
deriving DecidableEq

/-- The characters of a sign. -/
def Connective.chars : Connective → List Char
  | and => ['&', '&']
  | or => ['|', '|']

/-- Cuts a text at its signs: the first segment, and each sign with the segment behind it. -/
def split : List Char → List Char × List (Connective × List Char)
  | [] => ([], [])
  | '&' :: '&' :: rest =>
    let (segment, others) := split rest
    ([], (.and, segment) :: others)
  | '|' :: '|' :: rest =>
    let (segment, others) := split rest
    ([], (.or, segment) :: others)
  | c :: rest =>
    let (segment, others) := split rest
    (c :: segment, others)

/-- The name in a segment: what is left without blanks and parentheses at its ends. -/
def nameOf (segment : List Char) : List Char :=
  Text.trimBy (fun c => Text.isBlank c || c == '(' || c == ')') segment

/-- The segments of a concatenation. -/
def segments (condition : String) : List (List Char) :=
  let (first, others) := split condition.toList
  first :: others.map (·.2)

/-- The names in a concatenation, in order. -/
def names (condition : String) : List String :=
  (segments condition).map fun segment => String.ofList (nameOf segment)

/-! ## Expansion -/

/-- The signal of the check of a name. -/
def signalOf (registry : Registry) (name : String) : Except Failure Signal :=
  match registry.find? name with
  | none => .error (.unknownCheck name)
  | some result => match result.status.signal? with
    | some signal => .ok signal
    | none => .error (.unsupportedStatus name result.status.label)

/-- A segment with its name replaced by the signal of its check. -/
def expandSegment (registry : Registry) (segment : List Char) : Except Failure (List Char) := do
  let name := nameOf segment
  let signal ← signalOf registry (String.ofList name)
  return Text.replaceFirst name signal.label.toList segment

/-- Segments behind their signs, with names replaced by signals. -/
def expandOthers (registry : Registry) :
    List (Connective × List Char) → Except Failure (List Char)
  | [] => return []
  | (connective, segment) :: rest => do
    let expanded ← expandSegment registry segment
    let others ← expandOthers registry rest
    return connective.chars ++ expanded ++ others

/-- The expression over signals that a concatenation stands for. -/
def expand (registry : Registry) (condition : String) : Except Failure String := do
  let (first, others) := split condition.toList
  let expanded ← expandSegment registry first
  let rest ← expandOthers registry others
  return String.ofList (expanded ++ rest)

/-- The signals as variables, of which those that `accepts` takes are true. -/
def signalVariables (accepts : Signal → Bool) : List (String × Json) :=
  [Signal.green, Signal.yellow, Signal.red].map fun s => (s.label, .bool (accepts s))

end Concatenation

namespace Evaluator

/-- The status of an expression over signals. -/
def fold (e : Evaluator) (expression : String) : Except Failure Status := do
  let tolerant ← e.compute expression (Concatenation.signalVariables (· != .red))
  if tolerant.isTruthy then
    let strict ← e.compute expression (Concatenation.signalVariables (· == .green))
    return if strict.isTruthy then .green else .yellow
  else return .red

/-- The status of a concatenation for the results of checks. -/
def concatenate (e : Evaluator) (condition : String) (registry : Registry) :
    Except Failure ConcatenationResult := do
  let expression ← Concatenation.expand registry condition
  return ⟨condition, ← e.fold expression⟩

end Evaluator

end QualityGate
