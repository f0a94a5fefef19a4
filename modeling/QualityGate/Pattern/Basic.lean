import QualityGate.Text.Word
import QualityGate.Unicode.Casing

/-!
# Patterns on texts

Regular expressions as data, and the places they can reach. A place of a text is a number from zero
to the length of the text. `Pattern.reach` gives the places at which a match can end that starts at
one of the given places; it recurses on the pattern, so it says what a pattern means form by form.
Sets of places are lists in ascending order.
-/

namespace QualityGate

/-- A set of characters. -/
inductive CharClass where
  | empty
  | any
  | range (low high : Char)
  | ranges (set : Text.Ranges)
  | digit
  | blank
  | word
  | complement (c : CharClass)
  | union (left right : CharClass)
  | intersection (left right : CharClass)
  /-- The characters that differ from one of the set in nothing but case. -/
  | caseless (c : CharClass)
  /-- The set with both cases of each of its ASCII letters. -/
  | asciiCaseless (c : CharClass)

/-- Whether the set holds the character. -/
def CharClass.has : CharClass → Char → Bool
  | empty, _ => false
  | any, _ => true
  | range low high, x => low ≤ x && x ≤ high
  | ranges set, x => Text.inRanges set x
  | digit, x => Text.isAnyDigit x
  | blank, x => Text.isBlank x
  | word, x => Text.isWordChar x
  | complement c, x => !c.has x
  | union a b, x => a.has x || b.has x
  | intersection a b, x => a.has x && b.has x
  | caseless c, x => (Unicode.caseFamily x).any c.has
  | asciiCaseless c, x => c.has x || c.has x.toLower || c.has x.toUpper

/-- A condition on a place. Those on words ask which of the characters beside the place are word
characters, of all scripts or of ASCII. -/
inductive Anchor where
  | textStart
  | textEnd
  | lineStart
  | lineEnd
  /-- The start of a line that is ended by a line feed, a carriage return, or both in a row. -/
  | anyLineStart
  | anyLineEnd
  | wordEdge (ascii : Bool)
  | noWordEdge (ascii : Bool)
  | wordStart (ascii : Bool)
  | wordEnd (ascii : Bool)
  /-- No word character stands before the place. -/
  | noWordBefore (ascii : Bool)
  /-- No word character stands after the place. -/
  | noWordAfter (ascii : Bool)

/-- A regular expression. -/
inductive Pattern where
  | nothing
  | one (c : CharClass)
  | anchor (a : Anchor)
  | sequence (first second : Pattern)
  | either (left right : Pattern)
  | repeated (p : Pattern) (least : Nat) (most : Option Nat)
  /-- A part whose place in the text is remembered. -/
  | captured (p : Pattern)

namespace Pattern

/-! ## Places -/

/-- The character before a place. -/
def charBefore (text : Array Char) : Nat → Option Char
  | 0 => none
  | n + 1 => text[n]?

/-- Whether the character is a word character. -/
def isWord (ascii : Bool) (c : Char) : Bool :=
  if ascii then Text.isNameRest c else Text.isWordChar c

/-- Whether the condition holds at the place. -/
def holdsAt (text : Array Char) (place : Nat) (a : Anchor) : Bool :=
  let before := charBefore text place
  let after := text[place]?
  let wordBefore (ascii : Bool) : Bool := before.any (isWord ascii)
  let wordAfter (ascii : Bool) : Bool := after.any (isWord ascii)
  match a with
  | .textStart => before.isNone
  | .textEnd => after.isNone
  | .lineStart => before.isNone || before == some '\n'
  | .lineEnd => after.isNone || after == some '\n'
  | .anyLineStart =>
    before.isNone || before == some '\n' || (before == some '\r' && after != some '\n')
  | .anyLineEnd =>
    after.isNone || after == some '\r' || (after == some '\n' && before != some '\r')
  | .wordEdge ascii => wordBefore ascii != wordAfter ascii
  | .noWordEdge ascii => wordBefore ascii == wordAfter ascii
  | .wordStart ascii => !wordBefore ascii && wordAfter ascii
  | .wordEnd ascii => wordBefore ascii && !wordAfter ascii
  | .noWordBefore ascii => !wordBefore ascii
  | .noWordAfter ascii => !wordAfter ascii

/-- The places of two sets. -/
def merge : List Nat → List Nat → List Nat
  | [], ys => ys
  | xs, [] => xs
  | x :: xs, y :: ys =>
    if x < y then x :: merge xs (y :: ys)
    else if y < x then y :: merge (x :: xs) ys
    else x :: merge xs ys
termination_by xs ys => xs.length + ys.length

/-- The places reached by exactly `n` steps. Steps that change nothing are not repeated. -/
def stepTimes (step : List Nat → List Nat) : Nat → List Nat → List Nat
  | 0, ps => ps
  | n + 1, ps =>
    let next := step ps
    if next = ps then ps else stepTimes step n next

/-- The places reached by at most `n` steps. -/
def stepUpTo (step : List Nat → List Nat) : Nat → List Nat → List Nat
  | 0, ps => ps
  | n + 1, ps =>
    let more := merge ps (step ps)
    if more.length = ps.length then ps else stepUpTo step n more

/-- The places at which a match from one of the given places can end. -/
def reach (text : Array Char) : Pattern → List Nat → List Nat
  | nothing, ps => ps
  | one c, ps => ps.filterMap fun p => if (text[p]?).any c.has then some (p + 1) else none
  | anchor a, ps => ps.filter fun p => holdsAt text p a
  | sequence first second, ps => second.reach text (first.reach text ps)
  | either left right, ps => merge (left.reach text ps) (right.reach text ps)
  | repeated q least most, ps =>
    let required := stepTimes (q.reach text) least ps
    match most with
    | some most => stepUpTo (q.reach text) (most - least) required
    | none => stepUpTo (q.reach text) (text.size + 1) required
  | captured q, ps => q.reach text ps

/-- Whether some part of the text matches. -/
def matchesSome (q : Pattern) (text : List Char) : Bool :=
  !(q.reach text.toArray (List.range (text.length + 1))).isEmpty

end Pattern

end QualityGate
