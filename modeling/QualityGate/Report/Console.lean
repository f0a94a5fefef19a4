import QualityGate.Gate
import QualityGate.Json.Printer

/-!
# Console reports

One line per check with its status and name, and below each check that does not hold one line per
reason package; then an empty line, if there are checks at all, the concatenation, and the verdict.
Labels are padded to one width, and may be coloured by their signal.
-/

namespace QualityGate.Report

/-- The width of a label. -/
def labelWidth : Nat := 7

/-- The label of a check that could not be judged. -/
def failureLabel : String := "ERROR"

/-- A label with blanks up to the width of labels. -/
def pad (label : String) : String :=
  String.ofList (label.toList ++ List.replicate (labelWidth - label.length) ' ')

/-! ## Colours -/

/-- The sequence that sets or resets a style. -/
def style (code : String) : String := "\x1b[" ++ code ++ "m"

/-- The code of the colour of a signal. -/
def colour : Signal → String
  | .green => "32"
  | .yellow => "33"
  | .red => "31"

/-- A text in bold type and in the colour of a signal, if it has one. -/
def paint (colours : Bool) (signal : Option Signal) (text : String) : String :=
  if colours then match signal with
    | some s => style "1" ++ style (colour s) ++ text ++ style "39" ++ style "0"
    | none => style "1" ++ text ++ style "0"
  else text

/-! ## Lines -/

/-- The line of a reason package. -/
def packageLine (p : ReasonPackage) : String :=
  String.ofList (List.replicate (labelWidth + 1) ' ') ++ "reasons: " ++ p.reasons.compact
    ++ (match p.context with
      | some context => ", context: " ++ context.compact
      | none => "")

/-- The lines of a check. -/
def checkLines (colours : Bool) (c : CheckReport) : List String :=
  match c.outcome with
  | .evaluated result =>
    (paint colours result.status.signal? (pad result.status.label) ++ " " ++ c.name)
      :: (if result.holds then [] else result.packages.map packageLine)
  | .failed failure =>
    [paint colours (some .red) (pad failureLabel) ++ " " ++ c.name ++ ": " ++ failure]

/-- The lines of a report. -/
def consoleLines (colours : Bool) (r : GateReport) : List String :=
  r.checks.flatMap (checkLines colours)
    ++ (if r.checks.isEmpty then [] else [""])
    ++ (match r.concatenation with
      | some result => ["Concatenation: " ++ result.condition]
      | none => [])
    ++ ["Verdict: " ++ paint colours r.verdict.signal? r.verdict.label]

/-- The text of a report for the console. -/
def console (colours : Bool) (r : GateReport) : String :=
  String.join ((consoleLines colours r).map (· ++ "\n"))

end QualityGate.Report
