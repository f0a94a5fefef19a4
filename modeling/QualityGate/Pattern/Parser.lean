import QualityGate.Pattern.Part
import QualityGate.Unicode.Lookup

/-!
# Reading patterns

The written form of regular expressions: literals, escapes, classes in brackets, groups with flags,
alternatives and repetitions. Where the verbose flag is on, blanks and comments between signs are
left out; so readers take it as an argument.

`Part.parse?` gives the structure of a text and refuses one that is nested too deep. Readers of
groups and of classes take a bound for the nesting, which the length of the text provides.
-/

namespace QualityGate.Pattern

open Text (isDigit)

/-- A reader of one form. -/
abbrev Reader (α : Type) := List Char → Option (α × List Char)

/-! ## Blanks and comments -/

/-- The text without the blanks and comments at its start. A comment ends with its line. -/
def dropComments (inComment : Bool) : List Char → List Char
  | [] => []
  | c :: rest =>
    if inComment then dropComments (c != '\n') rest
    else if Text.isBlank c then dropComments false rest
    else if c = '#' then dropComments true rest
    else c :: rest

/-- The text from its next sign on. -/
def skip (verbose : Bool) (cs : List Char) : List Char :=
  if verbose then dropComments false cs else cs

/-- The text from its next sign on, of which something has to be left. -/
def skipOn (verbose : Bool) (cs : List Char) : Option (List Char) :=
  match skip verbose cs with
  | [] => none
  | rest => some rest

/-- The sign that follows. The inside of a comment counts as a sign here. -/
def peek (verbose : Bool) (cs : List Char) : Option Char :=
  if verbose then
    match cs.dropWhile Text.isBlank with
    | '#' :: rest => (rest.dropWhile Text.isBlank).head?
    | rest => rest.head?
  else cs.head?

/-! ## Escapes -/

/-- A part that is no group, class in brackets or repetition. -/
inductive Primitive where
  | literal (l : Literal)
  | dot
  | edge (e : Edge)
  | letter (c : LetterClass) (negated : Bool)
  | property (p : PropertyTest)

/-- Reads exactly `n` hexadecimal digits. -/
def readHexDigits (verbose : Bool) : Nat → Nat → Reader Nat
  | 0, acc, cs => some (acc, cs)
  | n + 1, acc, cs =>
    match skip verbose cs with
    | c :: rest => (Text.hexValue? c).bind fun v => readHexDigits verbose n (acc * 16 + v) rest
    | [] => none

/-- Reads the hexadecimal digits before a closing brace. `count` is how many have been read. -/
def readBraceDigits (verbose : Bool) : Nat → Nat → Nat → Reader Nat
  | 0, _, _, _ => none
  | fuel + 1, count, acc, cs =>
    match skip verbose cs with
    | '\x7d' :: rest => if count = 0 then none else some (acc, rest)
    | c :: rest =>
      (Text.hexValue? c).bind fun v => readBraceDigits verbose fuel (count + 1) (acc * 16 + v) rest
    | [] => none

/-- Reads a code point: `n` hexadecimal digits, or any number of them in braces. -/
def readCodePoint (verbose : Bool) (n : Nat) : Reader Literal := fun cs => do
  match ← skipOn verbose cs with
  | '\x7b' :: rest =>
    let (v, rest) ← readBraceDigits verbose (rest.length + 1) 0 0 rest
    return (⟨← Text.charOf? v, false⟩, skip verbose rest)
  | cs =>
    let (v, rest) ← readHexDigits verbose n 0 cs
    return (⟨← Text.charOf? v, n == 2⟩, skip verbose rest)

/-- Reads what stands before a closing brace. -/
def readBraced (verbose : Bool) : Nat → Reader (List Char)
  | 0, _ => none
  | fuel + 1, cs =>
    match skip verbose cs with
    | '\x7d' :: rest => some ([], rest)
    | c :: rest => (readBraced verbose fuel rest).map fun (more, r) => (c :: more, r)
    | [] => none

/-- The parts of a text before and after an occurrence of another. -/
def cutAt (mark : List Char) : List Char → Option (List Char × List Char)
  | [] => none
  | c :: cs =>
    if mark.isPrefixOf (c :: cs) then some ([], (c :: cs).drop mark.length)
    else (cutAt mark cs).map fun (a, b) => (c :: a, b)

/-- The property that the text between braces names. -/
def propertyOf (negated : Bool) (cs : List Char) : PropertyTest :=
  match cutAt ['!', '='] cs with
  | some (name, value) => ⟨.valued name value, !negated⟩
  | none =>
    match (cutAt [':'] cs).or (cutAt ['='] cs) with
    | some (name, value) => ⟨.valued name value, negated⟩
    | none => ⟨.single cs, negated⟩

/-- Reads a property: one letter, or a name in braces. -/
def readProperty (verbose negated : Bool) : Reader PropertyTest := fun cs => do
  match ← skipOn verbose cs with
  | '\x7b' :: rest =>
    let (name, rest) ← readBraced verbose (rest.length + 1) rest
    return (propertyOf negated name, rest)
  | '\\' :: _ => none
  | c :: rest => return (⟨.single [c], negated⟩, skip verbose rest)
  | [] => none

/-- Reads the name of a condition on words before a closing brace. -/
def readEdgeName (verbose : Bool) : Nat → Reader (List Char)
  | 0, _ => none
  | fuel + 1, cs =>
    match skip verbose cs with
    | '\x7d' :: rest => some ([], rest)
    | c :: rest =>
      if Text.isLetter c || c == '-' then
        (readEdgeName verbose fuel rest).map fun (more, r) => (c :: more, r)
      else none
    | [] => none

/-- Reads what may follow the escape of a word's edge: the name of a more special condition in
braces. Braces that hold a number are left to be read as a repetition. -/
def readWordEdge (verbose : Bool) : Reader Edge := fun cs =>
  match cs with
  | '\x7b' :: rest => do
    let c := (← skipOn verbose rest).head?
    if c.any fun c => Text.isLetter c || c == '-' then
      let (name, rest) ← readEdgeName verbose (rest.length + 1) rest
      match String.ofList name with
      | "start" => return (.wordStart, rest)
      | "end" => return (.wordEnd, rest)
      | "start-half" => return (.noWordBefore, rest)
      | "end-half" => return (.noWordAfter, rest)
      | _ => none
    else return (.wordEdge, cs)
  | _ => some (.wordEdge, cs)

/-- Whether a character that has no meaning of its own after a backslash may stand there. -/
def isEscapable (c : Char) : Bool :=
  c.toNat < 0x80 && !isDigit c && !Text.isLetter c && c != '<' && c != '>'

/-- Reads an escape after its backslash. -/
def readEscape (verbose : Bool) : Reader Primitive
  | [] => none
  | c :: rest =>
    let special (d : Char) : Option (Primitive × List Char) := some (.literal ⟨d, false⟩, rest)
    match c with
    | 'x' => (readCodePoint verbose 2 rest).map fun (l, r) => (.literal l, r)
    | 'u' => (readCodePoint verbose 4 rest).map fun (l, r) => (.literal l, r)
    | 'U' => (readCodePoint verbose 8 rest).map fun (l, r) => (.literal l, r)
    | 'p' => (readProperty verbose false rest).map fun (p, r) => (.property p, r)
    | 'P' => (readProperty verbose true rest).map fun (p, r) => (.property p, r)
    | 'd' => some (.letter .digit false, rest)
    | 'D' => some (.letter .digit true, rest)
    | 's' => some (.letter .blank false, rest)
    | 'S' => some (.letter .blank true, rest)
    | 'w' => some (.letter .word false, rest)
    | 'W' => some (.letter .word true, rest)
    | 'a' => special '\x07'
    | 'f' => special '\x0c'
    | 't' => special '\t'
    | 'n' => special '\n'
    | 'r' => special '\r'
    | 'v' => special '\x0b'
    | 'A' => some (.edge .textStart, rest)
    | 'z' => some (.edge .textEnd, rest)
    | 'b' => (readWordEdge verbose rest).map fun (e, r) => (.edge e, r)
    | 'B' => some (.edge .noWordEdge, rest)
    | '<' => some (.edge .wordStart, rest)
    | '>' => some (.edge .wordEnd, rest)
    | _ => if isEscapable c then special c else none

/-! ## Classes in brackets -/

/-- The class of ASCII characters of the given name. -/
def asciiClass? (name : List Char) : Option AsciiClass :=
  match String.ofList name with
  | "alnum" => some .alnum
  | "alpha" => some .alpha
  | "ascii" => some .ascii
  | "blank" => some .blank
  | "cntrl" => some .cntrl
  | "digit" => some .digit
  | "graph" => some .graph
  | "lower" => some .lower
  | "print" => some .print
  | "punct" => some .punct
  | "space" => some .space
  | "upper" => some .upper
  | "word" => some .word
  | "xdigit" => some .xdigit
  | _ => none

/-- Reads a named class after its opening bracket. -/
def readAsciiClass : Reader SetItem
  | ':' :: rest =>
    let (negated, rest) := match rest with
      | '^' :: r => (true, r)
      | r => (false, r)
    match rest.dropWhile (· != ':') with
    | ':' :: ']' :: more =>
      (asciiClass? (rest.takeWhile (· != ':'))).map fun c => (.ascii c negated, more)
    | _ => none
  | _ => none

/-- Reads one character or escape of a class. -/
def readSetPrimitive (verbose : Bool) : Reader Primitive
  | '\\' :: rest => readEscape verbose rest
  | c :: rest => some (.literal ⟨c, false⟩, rest)
  | [] => none

/-- The item that a character or an escape stands for. -/
def Primitive.toItem? : Primitive → Option SetItem
  | .literal l => some (.literal l)
  | .letter c negated => some (.letter c negated)
  | .property p => some (.property p)
  | _ => none

/-- Reads a character, an escape or a range of characters. -/
def readRange (verbose : Bool) : Reader SetItem := fun cs => do
  let (low, rest) ← readSetPrimitive verbose cs
  let rest ← skipOn verbose rest
  let single := do return (← low.toItem?, rest)
  match rest with
  | '-' :: more =>
    if peek verbose more = some ']' || peek verbose more = some '-' then single
    else
      let (high, rest) ← readSetPrimitive verbose (← skipOn verbose more)
      match low, high with
      | .literal l, .literal h => if h.char < l.char then none else return (.range l h, rest)
      | _, _ => none
  | _ => single

/-- A set with another one that it is combined with. -/
def combine (left : Option (SetPart × SetOperator)) (right : SetPart) : SetPart :=
  match left with
  | some (l, op) => .combined op l right
  | none => right

/-- Reads the hyphens at the start of a class, which stand for themselves. -/
def readHyphens (verbose : Bool) : Nat → List SetItem → Reader (List SetItem)
  | 0, items, cs => some (items, cs)
  | fuel + 1, items, cs =>
    match cs with
    | '-' :: rest => do
      readHyphens verbose fuel (.literal ⟨'-', false⟩ :: items) (← skipOn verbose rest)
    | _ => some (items, cs)

/-- Reads the items of a class up to its closing bracket, given the reader of nested classes. `left`
is what stands before the last operator, and `items` are those after it, the last one first. -/
def readItems (nested : Reader SetItem) (verbose : Bool) :
    Nat → Option (SetPart × SetOperator) → List SetItem → Reader SetPart
  | 0, _, _, _ => none
  | fuel + 1, left, items, cs =>
    let done := combine left (.item (SetItem.ofRow items.reverse))
    match skip verbose cs with
    | [] => none
    | ']' :: rest => some (done, rest)
    | '&' :: '&' :: rest => readItems nested verbose fuel (some (done, .intersection)) [] rest
    | '-' :: '-' :: rest => readItems nested verbose fuel (some (done, .difference)) [] rest
    | '~' :: '~' :: rest =>
      readItems nested verbose fuel (some (done, .symmetricDifference)) [] rest
    | '[' :: rest => do
      let (i, rest) ← (readAsciiClass rest).or (nested rest)
      readItems nested verbose fuel left (i :: items) rest
    | cs => do
      let (i, rest) ← readRange verbose cs
      readItems nested verbose fuel left (i :: items) rest

/-- Reads a class after its opening bracket. A closing bracket that comes first stands for
itself. -/
def readBracketed (verbose : Bool) : Nat → Reader SetItem
  | 0, _ => none
  | depth + 1, cs => do
    let cs ← skipOn verbose cs
    let (negated, cs) ← match cs with
      | '^' :: rest => (skipOn verbose rest).map fun r => (true, r)
      | _ => some (false, cs)
    let (items, cs) ← readHyphens verbose cs.length [] cs
    let (items, cs) ← match items, cs with
      | [], ']' :: rest => (skipOn verbose rest).map fun r => ([SetItem.literal ⟨']', false⟩], r)
      | _, _ => some (items, cs)
    let (set, rest) ← readItems (readBracketed verbose depth) verbose (cs.length + 1) none items cs
    return (.bracketed negated set, rest)

/-! ## Repetitions and groups -/

/-- Reads decimal digits; in verbose patterns blanks may stand between them. -/
def readDigits (verbose : Bool) : Nat → List Char → List Char × List Char
  | 0, cs => ([], cs)
  | fuel + 1, cs =>
    match cs with
    | c :: rest =>
      if isDigit c then
        let (more, rest) := readDigits verbose fuel (skip verbose rest)
        (c :: more, rest)
      else ([], cs)
    | [] => ([], [])

/-- Reads a number of 32 bits with blanks around it. -/
def readNumber (verbose : Bool) : Reader Nat := fun cs =>
  let (digits, rest) := readDigits verbose cs.length (cs.dropWhile Text.isBlank)
  let n := digits.foldl (fun acc d => acc * 10 + (d.toNat - 48)) 0
  if digits.isEmpty || 0x1_0000_0000 ≤ n then none
  else match rest with
    | c :: _ =>
      some (n, if Text.isBlank c then skip verbose (rest.dropWhile Text.isBlank) else rest)
    | [] => some (n, [])

/-- Reads the bounds of a counted repetition after its brace. -/
def readBounds (verbose : Bool) : Reader (Nat × Option Nat) := fun cs => do
  let (least, rest) ← readNumber verbose (← skipOn verbose cs)
  match rest with
  | '\x7d' :: rest => return ((least, some least), rest)
  | ',' :: rest =>
    match ← skipOn verbose rest with
    | '\x7d' :: rest => return ((least, none), rest)
    | rest =>
      let (most, rest) ← readNumber verbose rest
      match rest with
      | '\x7d' :: rest => if most < least then none else return ((least, some most), rest)
      | _ => none
  | _ => none

/-- The text after the mark of a lazy repetition, if there is one. -/
def dropLazy : List Char → List Char
  | '?' :: rest => rest
  | cs => cs

/-- Whether the part can be repeated. -/
def Part.isRepeatable : Part → Bool
  | .empty | .flags _ => false
  | _ => true

/-- The flag of a letter. -/
def flag? : Char → Option Flag
  | 'i' => some .caseless
  | 'm' => some .multiline
  | 's' => some .dotAll
  | 'U' => some .lazy
  | 'u' => some .unicode
  | 'R' => some .carriageReturn
  | 'x' => some .verbose
  | _ => none

/-- Reads flags up to the sign after them, a colon or a closing parenthesis. A flag may stand only
once, and so may the hyphen, which switches off the flags after it. -/
def readFlags (on : Bool) (items : List (Flag × Bool)) : Reader (List (Flag × Bool) × Char)
  | [] => none
  | '-' :: rest =>
    if on && rest.head? != some ':' && rest.head? != some ')' then readFlags false items rest
    else none
  | c :: rest =>
    if c == ':' || c == ')' then some ((items.reverse, c), rest)
    else match flag? c with
      | some f => if items.any (·.1 = f) then none else readFlags on ((f, on) :: items) rest
      | none => none

/-- The state in which flags leave one of them, if they name it. -/
def stateOf (f : Flag) (items : List (Flag × Bool)) : Option Bool := items.lookup f

/-- Whether the character may stand in the name of a group, or at its start. -/
def isNamePart (first : Bool) (c : Char) : Bool :=
  let alphabetic := Text.isLetter c || (0x80 ≤ c.toNat
    && ((Unicode.property? "alphabetic".toList).getD []).any fun r =>
      r.1 ≤ c.toNat && c.toNat ≤ r.2)
  if first then c == '_' || alphabetic
  else c == '_' || c == '.' || c == '[' || c == ']' || isDigit c || alphabetic
    || (0x80 ≤ c.toNat && Text.inRanges (Unicode.inCategories ["Nd", "Nl", "No"]) c)

/-- Reads the name of a group and the bracket after it. -/
def readGroupName : Reader (List Char) := fun cs =>
  match cs.takeWhile (· != '>'), cs.dropWhile (· != '>') with
  | c :: more, _ :: rest =>
    if isNamePart true c && more.all (isNamePart false) then some (c :: more, rest) else none
  | _, _ => none

/-- What changes while a pattern is read: the verbose flag, and the names of groups so far. -/
structure Progress where
  verbose : Bool
  names : List (List Char)

/-- Whether the text starts a group that looks ahead or behind, of which there are none. -/
def looksAround (cs : List Char) : Bool :=
  [['?', '='], ['?', '!'], ['?', '<', '='], ['?', '<', '!']].any (·.isPrefixOf cs)

/-- Reads a group, or flags for the rest of the present one, after the opening parenthesis. The
verbose flag is in force again after a group as it was before it. -/
def readGroup (inside : Progress → List Char → Option ((Part × Progress) × List Char))
    (g : Progress) : Reader (Part × Progress) := fun cs => do
  let cs := skip g.verbose cs
  let finish (wrap : Part → Part) (start : Progress) (cs : List Char) := do
    let ((p, after), rest) ← inside start cs
    match rest with
    | ')' :: rest => some ((wrap p, { after with verbose := g.verbose }), rest)
    | _ => none
  let named (cs : List Char) := do
    let (name, rest) ← readGroupName cs
    if g.names.contains name then none
    finish Part.captured { g with names := name :: g.names } rest
  if looksAround cs then none
  match cs with
  | '?' :: 'P' :: '<' :: rest => named rest
  | '?' :: '<' :: rest => named rest
  | '?' :: rest =>
    let ((items, mark), rest) ← readFlags true [] rest
    let inner := { g with verbose := (stateOf .verbose items).getD g.verbose }
    if mark = ':' then finish (Part.grouped items) inner rest
    else if items.isEmpty then none
    else return ((.flags items, inner), rest)
  | _ => finish Part.captured g cs

/-- Reads parts in a row up to a bar, a closing parenthesis or the end. `parts` are those read so
far, the last one first. -/
def readRow (inside : Progress → List Char → Option ((Part × Progress) × List Char)) :
    Nat → Progress → List Part → Reader (Part × Progress)
  | 0, _, _, _ => none
  | fuel + 1, g, parts, cs =>
    let next (p : Part) (rest : List Char) := readRow inside fuel g (p :: parts) rest
    let repeatLast (least : Nat) (most : Option Nat) (rest : List Char) :=
      match parts with
      | p :: before =>
        if p.isRepeatable then
          readRow inside fuel g (.repetition p least most :: before) (dropLazy rest)
        else none
      | [] => none
    match skip g.verbose cs with
    | [] => some ((Part.ofRow parts.reverse, g), [])
    | '|' :: rest => some ((Part.ofRow parts.reverse, g), '|' :: rest)
    | ')' :: rest => some ((Part.ofRow parts.reverse, g), ')' :: rest)
    | '(' :: rest => do
      let ((p, g), rest) ← readGroup inside g rest
      readRow inside fuel g (p :: parts) rest
    | '[' :: rest => do
      match ← readBracketed g.verbose (rest.length + 1) rest with
      | (.bracketed negated set, rest) => next (.bracketed negated set) rest
      | _ => none
    | '?' :: rest => repeatLast 0 (some 1) rest
    | '*' :: rest => repeatLast 0 none rest
    | '+' :: rest => repeatLast 1 none rest
    | '\x7b' :: rest => do
      let ((least, most), rest) ← readBounds g.verbose rest
      repeatLast least most (skip g.verbose rest)
    | '.' :: rest => next .dot rest
    | '^' :: rest => next (.edge .lineStart) rest
    | '$' :: rest => next (.edge .lineEnd) rest
    | '\\' :: rest => do
      let (p, rest) ← readEscape g.verbose rest
      match p with
      | .literal l => next (.literal l) rest
      | .dot => next .dot rest
      | .edge e => next (.edge e) rest
      | .letter c negated => next (.letter c negated) rest
      | .property p => next (.property p) rest
    | c :: rest => next (.literal ⟨c, false⟩) rest

/-- Reads alternatives with bars between them, up to a closing parenthesis or the end. -/
def readAlternatives (inside : Progress → List Char → Option ((Part × Progress) × List Char)) :
    Nat → Progress → Reader (List Part × Progress)
  | 0, _, _ => none
  | fuel + 1, g, cs => do
    let ((p, g), rest) ← readRow inside (cs.length + 1) g [] cs
    match rest with
    | '|' :: rest =>
      let ((ps, g), rest) ← readAlternatives inside fuel g rest
      return ((p :: ps, g), rest)
    | _ => return (([p], g), rest)

/-- Reads the inside of a group whose groups nest less deep than the bound. -/
def readInside : Nat → Progress → List Char → Option ((Part × Progress) × List Char)
  | 0, _, _ => none
  | depth + 1, g, cs => do
    let ((ps, g), rest) ← readAlternatives (readInside depth) (cs.length + 1) g cs
    match ps with
    | [p] => return ((p, g), rest)
    | _ => return ((.alternation ps, g), rest)

/-- The greatest depth of a pattern. -/
def depthLimit : Nat := 250

/-- The structure of a written pattern. -/
def Part.parse? (cs : List Char) : Option Part := do
  let ((p, _), rest) ← readInside (cs.length + 1) ⟨false, []⟩ cs
  if rest.isEmpty && p.depth ≤ depthLimit then return p else none

end QualityGate.Pattern
