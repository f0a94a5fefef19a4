import QualityGate.Path.Basic
import QualityGate.Json.Parser

/-!
# Reading paths

`Path.parse?` reads a path that fills its text. Blanks may stand before a child segment and inside
brackets and tests, but neither before the `$` nor after the last segment.

Every reader returns what it read and what is left of the text. A filter holds a test, and a test
may hold paths with filters; the readers of the outer forms take the reader of tests as an argument,
and `readTest` recurses on a bound for the nesting, which the length of the text provides.
-/

namespace QualityGate.Path

open Json (skipBlanks)
open Text (isDigit)

/-- A reader of one form. -/
abbrev Reader (α : Type) := List Char → Option (α × List Char)

/-! ## Names, strings and integers -/

/-- Whether the character may start a member name that is written without quotes. -/
def startsName (c : Char) : Bool := Text.isNameStart c || 0x80 ≤ c.toNat

/-- Whether the character may continue a member name that is written without quotes. -/
def continuesName (c : Char) : Bool := startsName c || isDigit c

/-- Reads a member name without quotes. -/
def readName : Reader String
  | c :: rest =>
    if startsName c then
      some (String.ofList (c :: rest.takeWhile continuesName), rest.dropWhile continuesName)
    else none
  | [] => none

/-- Reads the code point after `\u`: four hexadecimal digits, or two such escapes that make up a
surrogate pair. The first half of a pair has to start with capital letters. -/
def readUnicode : Reader Char := fun cs =>
  match cs with
  | 'd' :: _ => do
    let (v, rest) ← Text.takeHex 4 cs
    return (← Text.charOf? v, rest)
  | 'D' :: 'a' :: _ | 'D' :: 'b' :: _ => none
  | _ => Json.readUnicode cs

/-- Reads the rest of a string after its opening quote, which may be a single or a double one. -/
def readStringRest (quote : Char) : Nat → Reader (List Char)
  | 0, _ => none
  | fuel + 1, cs =>
    match cs with
    | [] => none
    | '\\' :: 'u' :: rest => do
      let (c, rest) ← readUnicode rest
      let (more, rest) ← readStringRest quote fuel rest
      return (c :: more, rest)
    | '\\' :: e :: rest => do
      let c ← if e = quote then some e else if e = '"' then none else Json.escapedChar? e
      let (more, rest) ← readStringRest quote fuel rest
      return (c :: more, rest)
    | c :: rest =>
      if c = quote then some ([], rest)
      else if c == '\\' || c.toNat < 0x20 then none
      else do
        let (more, rest) ← readStringRest quote fuel rest
        return (c :: more, rest)

/-- Reads a string in single or double quotes. -/
def readString : Reader String
  | c :: rest =>
    if c == '\'' || c == '"' then
      (readStringRest c (rest.length + 1) rest).map fun (s, r) => (String.ofList s, r)
    else none
  | [] => none

/-- Reads an integer without superfluous zeros whose magnitude is below `2 ^ 53`. -/
def readInteger (cs : List Char) : Option (Int × List Char) := do
  let (negative, cs) := match cs with
    | '-' :: r => (true, r)
    | r => (false, r)
  let digits := cs.takeWhile isDigit
  let n : Nat := digits.foldl (fun acc d => acc * 10 + (d.toNat - 48)) 0
  if digits.isEmpty || (digits.head? == some '0' && (negative || 1 < digits.length)) then none
  else if 0x20_0000_0000_0000 ≤ n then none
  else return (if negative then -(n : Int) else n, cs.dropWhile isDigit)

/-! ## Selectors and segments -/

/-- Reads an integer if there is one, and the blanks after it. -/
def readBound (cs : List Char) : Option Int × List Char :=
  match readInteger cs with
  | some (i, rest) => (some i, skipBlanks rest)
  | none => (none, cs)

/-- Reads a slice: bounds before and after a colon, and a step after a second one. -/
def readSlice : Reader Selector := fun cs =>
  let (start, rest) := readBound cs
  match rest with
  | ':' :: rest =>
    let (stop, afterStop) := readBound (skipBlanks rest)
    match skipBlanks afterStop with
    | ':' :: rest =>
      match readInteger (skipBlanks rest) with
      | some (step, rest) => some (.slice start stop step, rest)
      | none => some (.slice start stop 1, rest)
    | _ => some (.slice start stop 1, afterStop)
  | _ => none

/-- Reads a selector inside brackets, given the reader of tests. -/
def readSelector (test : Reader Test) : Reader Selector := fun cs =>
  match cs with
  | '*' :: rest => some (.wildcard, rest)
  | '?' :: rest => (test (skipBlanks rest)).map fun (t, r) => (.filter t, r)
  | '\'' :: _ | '"' :: _ => (readString cs).map fun (s, r) => (.name s, r)
  | _ => readSlice cs <|> (readInteger cs).map fun (i, r) => (.index i, r)

/-- Reads selectors with commas between them, up to the closing bracket. -/
def readSelectors (test : Reader Test) : Nat → Reader (List Selector)
  | 0, _ => none
  | fuel + 1, cs => do
    let (s, rest) ← readSelector test (skipBlanks cs)
    match skipBlanks rest with
    | ',' :: rest =>
      let (more, rest) ← readSelectors test fuel rest
      return (s :: more, rest)
    | ']' :: rest => return ([s], rest)
    | _ => none

/-- Reads the selectors after a bracket, or the wildcard or the name after a point. -/
def readShorthand : Reader (List Selector)
  | '*' :: rest => some ([.wildcard], rest)
  | cs => (readName cs).map fun (s, r) => ([.name s], r)

/-- Reads a segment. -/
def readSegment (test : Reader Test) : Reader Segment := fun cs =>
  match cs with
  | '.' :: '.' :: '[' :: rest =>
    (readSelectors test (rest.length + 1) rest).map fun (s, r) => (.descendant s, r)
  | '.' :: '.' :: rest => (readShorthand rest).map fun (s, r) => (.descendant s, r)
  | _ =>
    match skipBlanks cs with
    | '[' :: rest => (readSelectors test (rest.length + 1) rest).map fun (s, r) => (.child s, r)
    | '.' :: rest => (readShorthand rest).map fun (s, r) => (.child s, r)
    | _ => none

/-- Reads as many of a form as there are. -/
def readMany {α : Type} (one : Reader α) : Nat → List Char → List α × List Char
  | 0, cs => ([], cs)
  | fuel + 1, cs =>
    match one cs with
    | some (x, rest) =>
      let (xs, rest) := readMany one fuel rest
      (x :: xs, rest)
    | none => ([], cs)

/-- Reads the start of a path inside a test. -/
def readOrigin : Reader Origin
  | '$' :: rest => some (.document, rest)
  | '@' :: rest => some (.current, rest)
  | _ => none

/-- Reads a path inside a test. -/
def readQuery (test : Reader Test) : Reader (Origin × List Segment) := fun cs => do
  let (origin, rest) ← readOrigin cs
  let (segments, rest) := readMany (readSegment test) rest.length rest
  return ((origin, segments), rest)

/-! ## Tests -/

/-- Reads the opening of a call: the name of a function and its parenthesis. -/
def readCall : Reader String := fun cs =>
  let name := cs.takeWhile fun c => ('a' ≤ c && c ≤ 'z') || isDigit c || c == '_'
  match cs.dropWhile fun c => ('a' ≤ c && c ≤ 'z') || isDigit c || c == '_' with
  | '(' :: rest => if name.isEmpty then none else some (String.ofList name, skipBlanks rest)
  | _ => none

/-- Reads the closing parenthesis, after blanks. -/
def readClose (cs : List Char) : Option (List Char) :=
  match skipBlanks cs with
  | ')' :: rest => some rest
  | _ => none

/-- Reads a number, a string or one of the three words. -/
def readLiteral : Reader Json := fun cs =>
  match cs with
  | '\'' :: _ | '"' :: _ => (readString cs).map fun (s, r) => (.string s, r)
  | 't' :: _ => Json.readWord ['t', 'r', 'u', 'e'] (.bool true) cs
  | 'f' :: _ => Json.readWord ['f', 'a', 'l', 's', 'e'] (.bool false) cs
  | 'n' :: _ => Json.readWord ['n', 'u', 'l', 'l'] .null cs
  | _ => (Json.readNumber cs).map fun (n, r) => (.number n, r)

/-- Reads an operand: a literal, a path to at most one value, or a call that gives a value. -/
def readOperand (test : Reader Test) : Nat → Reader Operand
  | 0, _ => none
  | depth + 1, cs =>
    match readCall cs with
    | some (name, rest) =>
      if name = "length" then do
        let (x, rest) ← readOperand test depth rest
        return (.length x, ← readClose rest)
      else if name = "count" then do
        let ((origin, segments), rest) ← readQuery test rest
        return (.count origin segments, ← readClose rest)
      else if name = "value" then do
        let ((origin, segments), rest) ← readQuery test rest
        return (.value origin segments, ← readClose rest)
      else none
    | none =>
      match readQuery test cs with
      | some ((origin, segments), rest) => (steps? segments).map fun steps =>
          (.singular origin steps, rest)
      | none => (readLiteral cs).map fun (v, r) => (.literal v, r)

/-- Reads a comparison sign. -/
def readComparison : Reader Comparison
  | '=' :: '=' :: rest => some (.equal, rest)
  | '!' :: '=' :: rest => some (.notEqual, rest)
  | '<' :: '=' :: rest => some (.lessEqual, rest)
  | '>' :: '=' :: rest => some (.greaterEqual, rest)
  | '<' :: rest => some (.less, rest)
  | '>' :: rest => some (.greater, rest)
  | _ => none

/-- Reads the rest of a comparison after its left operand. -/
def readCompareRest (test : Reader Test) (depth : Nat) (left : Operand) : Reader Test :=
  fun cs => do
    let (op, rest) ← readComparison (skipBlanks cs)
    let (right, rest) ← readOperand test depth (skipBlanks rest)
    return (.compare op left right, rest)

/-- Reads a comparison. -/
def readCompare (test : Reader Test) (depth : Nat) : Reader Test := fun cs => do
  let (left, rest) ← readOperand test depth cs
  readCompareRest test depth left rest

/-- Reads a test that starts with a path: a comparison if the path leads to at most one value and
such a sign follows, or else the path, which has to select something. -/
def readPathTest (test : Reader Test) (depth : Nat) : Reader Test := fun cs => do
  let ((origin, segments), rest) ← readQuery test cs
  let compared := do readCompareRest test depth (.singular origin (← steps? segments)) rest
  compared <|> some (.exists origin segments, rest)

/-- Reads a call that is a test of its own. -/
def readMatching (test : Reader Test) (depth : Nat) : Reader Test := fun cs => do
  let (name, rest) ← readCall cs
  if name != "match" && name != "search" then none
  let (text, rest) ← readOperand test depth rest
  match skipBlanks rest with
  | ',' :: rest =>
    let (pattern, rest) ← readOperand test depth (skipBlanks rest)
    return (.matching (name == "match") text pattern, ← readClose rest)
  | _ => none

/-- Reads a test in parentheses, a matching call, or a path that has to select something. -/
def readPositive (test : Reader Test) (depth : Nat) : Reader Test := fun cs =>
  match cs with
  | '(' :: rest => do
    let (t, rest) ← test (skipBlanks rest)
    return (t, ← readClose rest)
  | _ =>
    readMatching test depth cs
      <|> (readQuery test cs).map fun ((origin, segments), r) => (.exists origin segments, r)

/-- Reads a test without connectives at its top. -/
def readBasic (test : Reader Test) (depth : Nat) : Reader Test := fun cs =>
  match cs with
  | '!' :: rest => (readPositive test depth (skipBlanks rest)).map fun (t, r) => (.not t, r)
  | '$' :: _ | '@' :: _ => readPathTest test depth cs
  | _ => readCompare test depth cs <|> readPositive test depth cs

/-- Reads one form or several with a sign of two characters between them, joined from the left. -/
def readChain (one : Reader Test) (sign : Char) (join : Test → Test → Test) :
    Nat → Test → List Char → Test × List Char
  | 0, t, cs => (t, cs)
  | fuel + 1, t, cs =>
    match skipBlanks cs with
    | a :: b :: rest =>
      if a = sign ∧ b = sign then
        match one (skipBlanks rest) with
        | some (u, rest) => readChain one sign join fuel (join t u) rest
        | none => (t, cs)
      else (t, cs)
    | _ => (t, cs)

/-- Reads tests joined by `&&`. -/
def readConjunction (test : Reader Test) (depth : Nat) : Reader Test := fun cs => do
  let (t, rest) ← readBasic test depth cs
  return readChain (readBasic test depth) '&' .and rest.length t rest

/-- Reads tests joined by `||`, each of tests joined by `&&`. -/
def readDisjunction (test : Reader Test) (depth : Nat) : Reader Test := fun cs => do
  let (t, rest) ← readConjunction test depth cs
  return readChain (readConjunction test depth) '|' .or rest.length t rest

/-- Reads a test whose parts nest less deep than the bound. -/
def readTest : Nat → Reader Test
  | 0, _ => none
  | depth + 1, cs => readDisjunction (readTest depth) (depth + 1) cs


/-- The path that a text denotes. -/
def parse? (text : String) : Option Path :=
  match text.toList with
  | '$' :: rest =>
    let (segments, rest) := readMany (readSegment (readTest (rest.length + 1))) rest.length rest
    if rest.isEmpty then some ⟨segments⟩ else none
  | _ => none

end QualityGate.Path
