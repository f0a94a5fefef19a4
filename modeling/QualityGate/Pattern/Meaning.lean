import QualityGate.Pattern.Basic
import QualityGate.Pattern.Parser

/-!
# The meaning of written patterns

`Part.meaning` turns the structure of a written pattern into the pattern it stands for under given
flags. Flags inside a group hold for the rest of it.

Cases are ignored before a class is negated, so a negated class without case leaves out both cases
of its letters. Where the flag for all scripts is off, classes are sets of bytes; a pattern then has
no meaning if it could match a byte that is no character of its own, as every negated class could.
-/

namespace QualityGate.Pattern

/-- The modes in force. -/
structure Flags where
  caseless : Bool := false
  multiline : Bool := false
  dotAll : Bool := false
  unicode : Bool := true
  carriageReturn : Bool := false

/-- The modes after a flag has been switched. Laziness has no bearing on whether a text matches, and
blanks have been left out before. -/
def Flags.switch (f : Flags) (item : Flag × Bool) : Flags :=
  match item.1 with
  | .caseless => { f with caseless := item.2 }
  | .multiline => { f with multiline := item.2 }
  | .dotAll => { f with dotAll := item.2 }
  | .unicode => { f with unicode := item.2 }
  | .carriageReturn => { f with carriageReturn := item.2 }
  | .lazy | .verbose => f

/-! ## Classes -/

/-- The set of one character. -/
def single (c : Char) : CharClass := .range c c

/-- The set with regard to case as the modes have it. -/
def Flags.fold (f : Flags) (c : CharClass) : CharClass :=
  if !f.caseless then c else if f.unicode then .caseless c else .asciiCaseless c

/-- The set or, if negated, its complement, which is no set of ASCII characters. -/
def Flags.negate? (f : Flags) (negated : Bool) (c : CharClass) : Option CharClass :=
  if !negated then some c else if f.unicode then some (.complement c) else none

/-- The characters of a class that is written by name. -/
def AsciiClass.toClass : AsciiClass → CharClass
  | alnum => .union (.range '0' '9') (.union (.range 'A' 'Z') (.range 'a' 'z'))
  | alpha => .union (.range 'A' 'Z') (.range 'a' 'z')
  | ascii => .range '\x00' '\x7f'
  | blank => .union (single '\t') (single ' ')
  | cntrl => .union (.range '\x00' '\x1f') (single '\x7f')
  | digit => .range '0' '9'
  | graph => .range '!' '~'
  | lower => .range 'a' 'z'
  | print => .range ' ' '~'
  | punct => .union (.range '!' '/') (.union (.range ':' '@') (.union (.range '[' '\x60')
      (.range '\x7b' '~')))
  | space => .union (.range '\t' '\r') (single ' ')
  | upper => .range 'A' 'Z'
  | word => .union (.range '0' '9') (.union (.range 'A' 'Z') (.union (single '_') (.range 'a' 'z')))
  | xdigit => .union (.range '0' '9') (.union (.range 'A' 'F') (.range 'a' 'f'))

/-- The characters of a class that is written as one letter. -/
def LetterClass.toClass (unicode : Bool) : LetterClass → CharClass
  | digit => if unicode then .digit else AsciiClass.digit.toClass
  | blank => if unicode then .blank else AsciiClass.space.toClass
  | word => if unicode then .word else AsciiClass.word.toClass

/-- The characters that have a property. -/
def PropertyTest.toClass? (f : Flags) (p : PropertyTest) : Option CharClass := do
  if !f.unicode then none
  let set ← match p.name with
    | .single name => Unicode.named? name
    | .valued name value => Unicode.valued? name value
  f.negate? p.negated (f.fold (.ranges set))

/-- The character of a literal in a class. -/
def Literal.inClass? (f : Flags) (l : Literal) : Option Char :=
  if f.unicode || l.char.toNat < 0x80 then some l.char else none

mutual

/-- The characters of an item of a class. -/
def SetItem.toClass? (f : Flags) : SetItem → Option CharClass
  | .empty => some .empty
  | .literal l => (l.inClass? f).map single
  | .range low high => do return .range (← low.inClass? f) (← high.inClass? f)
  | .ascii c negated => f.negate? negated (f.fold c.toClass)
  | .letter c negated => f.negate? negated (c.toClass f.unicode)
  | .property p => p.toClass? f
  | .bracketed negated set => do f.negate? negated (f.fold (← set.toClass? f))
  | .union items => unionOf f items

/-- The characters of the inside of a class. -/
def SetPart.toClass? (f : Flags) : SetPart → Option CharClass
  | .item i => i.toClass? f
  | .combined op left right => do
    let l := f.fold (← left.toClass? f)
    let r := f.fold (← right.toClass? f)
    return match op with
      | .intersection => .intersection l r
      | .difference => .intersection l (.complement r)
      | .symmetricDifference =>
        .union (.intersection l (.complement r)) (.intersection r (.complement l))

/-- The characters of items side by side. -/
def unionOf (f : Flags) : List SetItem → Option CharClass
  | [] => some .empty
  | [i] => i.toClass? f
  | i :: rest => do return .union (← i.toClass? f) (← unionOf f rest)

end

/-! ## Parts -/

/-- The set that the point stands for. -/
def Flags.point? (f : Flags) : Option CharClass :=
  if !f.unicode then none
  else if f.dotAll then some .any
  else if f.carriageReturn then some (.complement (.union (single '\n') (single '\r')))
  else some (.complement (single '\n'))

/-- The condition that a sign or an escape stands for. -/
def Edge.toAnchor (f : Flags) : Edge → Anchor
  | lineStart =>
    if !f.multiline then .textStart else if f.carriageReturn then .anyLineStart else .lineStart
  | lineEnd =>
    if !f.multiline then .textEnd else if f.carriageReturn then .anyLineEnd else .lineEnd
  | textStart => .textStart
  | textEnd => .textEnd
  | wordEdge => .wordEdge !f.unicode
  | noWordEdge => .noWordEdge !f.unicode
  | wordStart => .wordStart !f.unicode
  | wordEnd => .wordEnd !f.unicode
  | noWordBefore => .noWordBefore !f.unicode
  | noWordAfter => .noWordAfter !f.unicode

/-- The pattern of a literal. Outside classes only a literal byte beyond ASCII has no meaning. -/
def Literal.toPattern? (f : Flags) (l : Literal) : Option Pattern :=
  if !f.unicode && l.asByte && 0x80 ≤ l.char.toNat then none
  else
    let folds := if f.unicode then (Unicode.caseFamily l.char).length > 1 else Text.isLetter l.char
    some (.one (if folds then f.fold (single l.char) else single l.char))

/-- Patterns one after the other. -/
def andThen : Pattern → Pattern → Pattern
  | nothing, q => q
  | p, nothing => p
  | p, q => .sequence p q

/-- Whether the pattern matches nothing but places. -/
def isPlaceOnly : Pattern → Bool
  | nothing | anchor _ => true
  | one _ => false
  | sequence p q => p.isPlaceOnly && q.isPlaceOnly
  | either p q => p.isPlaceOnly && q.isPlaceOnly
  | repeated p _ most => p.isPlaceOnly || most == some 0
  | captured p => p.isPlaceOnly

/-- A repetition. What matches places only is not repeated more than once. -/
def repeatedly (p : Pattern) (least : Nat) (most : Option Nat) : Pattern :=
  let (least, most) := if p.isPlaceOnly then (min least 1, some (min (most.getD 1) 1))
    else (least, most)
  if most = some 0 then .nothing
  else if least = 1 ∧ most = some 1 then p
  else .repeated p least most

mutual

/-- The pattern that a part stands for, and the modes after it. -/
def Part.meaning (f : Flags) : Part → Option (Pattern × Flags)
  | .empty => some (.nothing, f)
  | .flags items => some (.nothing, items.foldl Flags.switch f)
  | .literal l => (l.toPattern? f).map fun p => (p, f)
  | .dot => f.point?.map fun c => (.one c, f)
  | .edge e => some (.anchor (e.toAnchor f), f)
  | .letter c negated => (f.negate? negated (c.toClass f.unicode)).map fun c => (.one c, f)
  | .property p => (p.toClass? f).map fun c => (.one c, f)
  | .bracketed negated set => do
    return (.one (← f.negate? negated (f.fold (← set.toClass? f))), f)
  | .repetition p least most => do
    let (q, g) ← p.meaning f
    return (repeatedly q least most, g)
  | .captured p => do
    let (q, _) ← p.meaning f
    return (.captured q, f)
  | .grouped items p => do
    let (q, _) ← p.meaning (items.foldl Flags.switch f)
    return (q, f)
  | .alternation parts => alternativesOf f parts
  | .concatenation parts => rowOf f parts

/-- The pattern of parts in a row, and the modes after them. -/
def rowOf (f : Flags) : List Part → Option (Pattern × Flags)
  | [] => some (.nothing, f)
  | p :: rest => do
    let (q, f) ← p.meaning f
    let (r, f) ← rowOf f rest
    return (andThen q r, f)

/-- The pattern of alternatives, and the modes after them. -/
def alternativesOf (f : Flags) : List Part → Option (Pattern × Flags)
  | [] => some (.one .empty, f)
  | [p] => p.meaning f
  | p :: rest => do
    let (q, f) ← p.meaning f
    let (r, f) ← alternativesOf f rest
    return (.either q r, f)

end

end QualityGate.Pattern
