import QualityGate.Failure
import QualityGate.Path.Parser
import QualityGate.Path.Query
import QualityGate.Text.Search

/-!
# Selecting with the text of a path

Conditions and checks hold paths as texts. A text that is no path is a failure that names it.
-/

namespace QualityGate.Path

/-- The path of a text. -/
def compile (text : String) : Except Failure Path :=
  match parse? text with
  | some p => .ok p
  | none => .error (.invalidPath text)

/-- The values that the path of a text selects, in document order. -/
def select (document : Json) (text : String) : Except Failure (List Json) :=
  match compile text with
  | .ok p => .ok (p.query document)
  | .error e => .error e

/-- The first value that the path of a text selects, if there is one. -/
def selectFirst (document : Json) (text : String) : Except Failure (Option Json) :=
  match select document text with
  | .ok values => .ok values.head?
  | .error e => .error e

/-- Whether a text contains the mark that stands at the start of a filter. -/
def mentionsFilter (text : String) : Bool := Text.occursIn ['[', '?'] text.toList

end QualityGate.Path
