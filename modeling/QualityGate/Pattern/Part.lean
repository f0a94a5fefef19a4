import QualityGate.Text.Blank

/-!
# The written structure of patterns

What a pattern is made of before its flags are applied: literals, classes, groups, alternatives and
repetitions as they stand in the text. `Part.depth` says how deep parts and classes are nested.
-/

namespace QualityGate.Pattern

/-- A mode that a pattern can switch on and off. -/
inductive Flag where
  | caseless
  | multiline
  /-- Whether the point also stands for the ends of lines. -/
  | dotAll
  /-- Whether repetitions take as little as they can. -/
  | lazy
  /-- Whether classes and cases are those of all scripts. -/
  | unicode
  /-- Whether carriage returns end lines, too. -/
  | carriageReturn
  /-- Whether blanks and comments are left out. -/
  | verbose
deriving DecidableEq

/-- The classes that are written as one letter after a backslash. -/
inductive LetterClass where
  | digit
  | blank
  | word

/-- The classes of ASCII characters that are written by name. -/
inductive AsciiClass where
  | alnum
  | alpha
  | ascii
  | blank
  | cntrl
  | digit
  | graph
  | lower
  | print
  | punct
  | space
  | upper
  | word
  | xdigit

/-- The ways in which two sets are combined. -/
inductive SetOperator where
  | intersection
  | difference
  | symmetricDifference

/-- A character as it is written. -/
structure Literal where
  char : Char
  /-- Whether it is written as two hexadecimal digits, which may mean a byte. -/
  asByte : Bool

/-- The name of a property, with a value of it or without. -/
inductive PropertyName where
  | single (name : List Char)
  | valued (name value : List Char)

/-- A property of characters as it is written. -/
structure PropertyTest where
  name : PropertyName
  negated : Bool

mutual

/-- An item of a class in brackets. -/
inductive SetItem where
  | empty
  | literal (l : Literal)
  | range (low high : Literal)
  | ascii (c : AsciiClass) (negated : Bool)
  | letter (c : LetterClass) (negated : Bool)
  | property (p : PropertyTest)
  | bracketed (negated : Bool) (set : SetPart)
  | union (items : List SetItem)

/-- The inside of a class in brackets. -/
inductive SetPart where
  | item (i : SetItem)
  | combined (op : SetOperator) (left right : SetPart)

end

/-- The conditions on places that are written as a sign or an escape. -/
inductive Edge where
  | lineStart
  | lineEnd
  | textStart
  | textEnd
  | wordEdge
  | noWordEdge
  | wordStart
  | wordEnd
  | noWordBefore
  | noWordAfter

/-- A part of a written pattern. -/
inductive Part where
  | empty
  /-- Flags for the rest of the group, each switched on or off. -/
  | flags (items : List (Flag × Bool))
  | literal (l : Literal)
  | dot
  | edge (e : Edge)
  | letter (c : LetterClass) (negated : Bool)
  | property (p : PropertyTest)
  | bracketed (negated : Bool) (set : SetPart)
  | repetition (p : Part) (least : Nat) (most : Option Nat)
  | captured (p : Part)
  | grouped (items : List (Flag × Bool)) (p : Part)
  | alternation (parts : List Part)
  | concatenation (parts : List Part)

/-! ## Nesting -/

mutual

/-- How deep an item of a class is nested. -/
def SetItem.depth : SetItem → Nat
  | .bracketed _ set => set.depth + 1
  | .union items => depthOfItems items + 1
  | _ => 0

/-- How deep the inside of a class is nested. -/
def SetPart.depth : SetPart → Nat
  | .item i => i.depth
  | .combined _ left right => max left.depth right.depth + 1

/-- How deep the items of a class are nested. -/
def depthOfItems : List SetItem → Nat
  | [] => 0
  | i :: rest => max i.depth (depthOfItems rest)

end

mutual

/-- How deep a part is nested. -/
def Part.depth : Part → Nat
  | .bracketed _ set => set.depth + 1
  | .repetition p _ _ => p.depth + 1
  | .captured p => p.depth + 1
  | .grouped _ p => p.depth + 1
  | .alternation parts => depthOfParts parts + 1
  | .concatenation parts => depthOfParts parts + 1
  | _ => 0

/-- How deep parts are nested. -/
def depthOfParts : List Part → Nat
  | [] => 0
  | p :: rest => max p.depth (depthOfParts rest)

end

/-- The part that parts in a row make up. -/
def Part.ofRow : List Part → Part
  | [] => .empty
  | [p] => p
  | ps => .concatenation ps

/-- The item that items side by side make up. -/
def SetItem.ofRow : List SetItem → SetItem
  | [] => .empty
  | [i] => i
  | is => .union is

end QualityGate.Pattern
