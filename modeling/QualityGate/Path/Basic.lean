import QualityGate.Json.Basic

/-!
# Paths into JSON documents

A path starts at the document, or inside a filter also at the value under test, and follows
segments. A segment applies its selectors to every value reached so far; a descendant segment also
applies them to everything below. A filter selector keeps the children for which a test holds, and
tests may contain paths again.
-/

namespace QualityGate.Path

/-- Where a path starts. -/
inductive Origin where
  | document
  | current
deriving DecidableEq

/-- A step to at most one child. -/
inductive Step where
  | name (key : String)
  | index (i : Int)
deriving DecidableEq

/-- A comparison between two operands of a test. -/
inductive Comparison where
  | equal
  | notEqual
  | less
  | lessEqual
  | greater
  | greaterEqual
deriving DecidableEq

mutual

/-- What is picked from a value. -/
inductive Selector where
  | name (key : String)
  | wildcard
  | index (i : Int)
  | slice (start stop : Option Int) (step : Int)
  | filter (test : Test)

/-- A part of a path. -/
inductive Segment where
  | child (selectors : List Selector)
  | descendant (selectors : List Selector)

/-- A condition on a value. -/
inductive Test where
  | or (left right : Test)
  | and (left right : Test)
  | not (test : Test)
  | exists (origin : Origin) (segments : List Segment)
  | compare (op : Comparison) (left right : Operand)
  /-- The first operand is a text that matches the second, taken as a pattern: as a whole, or in
  some part. -/
  | matching (whole : Bool) (text pattern : Operand)

/-- What a test compares: at most one value. -/
inductive Operand where
  | literal (value : Json)
  | singular (origin : Origin) (steps : List Step)
  | length (operand : Operand)
  | count (origin : Origin) (segments : List Segment)
  | value (origin : Origin) (segments : List Segment)

end

end QualityGate.Path

namespace QualityGate

/-- A path into a document: the segments after its `$`. -/
structure Path where
  segments : List Path.Segment

namespace Path

/-- Whether the selector is a filter. -/
def Selector.isFilter : Selector → Bool
  | filter _ => true
  | _ => false

/-- The selectors of a segment. -/
def Segment.selectors : Segment → List Selector
  | child selectors | descendant selectors => selectors

/-- Whether some segment of the path has a filter among its selectors. -/
def hasFilter (p : Path) : Bool := p.segments.any fun s => s.selectors.any Selector.isFilter

/-- The step that a segment takes, if it leads to at most one child. -/
def Segment.step? : Segment → Option Step
  | child [.name key] => some (.name key)
  | child [.index i] => some (.index i)
  | _ => none

/-- The steps that segments take, if all of them lead to at most one child. -/
def steps? (segments : List Segment) : Option (List Step) := segments.mapM Segment.step?

end Path

end QualityGate
