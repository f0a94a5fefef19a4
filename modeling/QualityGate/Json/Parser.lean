import QualityGate.Json.Basic
import QualityGate.Text.Blank
import QualityGate.Decimal.Reading

/-!
# Reading JSON texts

`Json.parse?` reads one JSON value that fills the text. Every reader returns the value and what is
left of the text. Containers may nest 127 levels deep, and the reader of a container recurses on the
levels left, so each reader is total.

An integer that does not fit 64 bits, signed or unsigned, is read as a double, and so is `-0`.
-/

namespace QualityGate.Json

open Text (isDigit)

/-- Drops the blanks of JSON: space, tab, line feed and carriage return. -/
def skipBlanks (cs : List Char) : List Char :=
  cs.dropWhile fun c => c == ' ' || c == '\t' || c == '\n' || c == '\r'

/-- Reads a fixed word. -/
def readWord (word : List Char) (value : Json) (cs : List Char) : Option (Json × List Char) :=
  if word.isPrefixOf cs then some (value, cs.drop word.length) else none

/-- Reads the exponent of a number, if there is one. -/
def readExponent (cs : List Char) : Option (Option Int × List Char) :=
  match cs with
  | c :: rest =>
    if c == 'e' || c == 'E' then
      let (negative, digits) := match rest with
        | '-' :: r => (true, r)
        | '+' :: r => (false, r)
        | r => (false, r)
      let exponent := digits.takeWhile isDigit
      if exponent.isEmpty then none
      else
        let n : Nat := exponent.foldl (fun acc d => acc * 10 + (d.toNat - 48)) 0
        some (some (if negative then -(n : Int) else n), digits.dropWhile isDigit)
    else some (none, cs)
  | [] => some (none, [])

/-- Reads the fraction of a number, if there is one. -/
def readFraction (cs : List Char) : Option (Option (List Char) × List Char) :=
  match cs with
  | '.' :: rest =>
    let digits := rest.takeWhile isDigit
    if digits.isEmpty then none else some (some digits, rest.dropWhile isDigit)
  | _ => some (none, cs)

/-- The number written by a sign, whole digits, fraction digits and an exponent. -/
def numberOf (negative : Bool) (whole : List Char) (fraction : Option (List Char))
    (exponent : Option Int) : Option JsonNumber :=
  let (significand, dropped) := Decimal.absorb 0 whole
  let signed (f : Float) : JsonNumber := .double (if negative then -f else f)
  match fraction, exponent, dropped with
  | none, none, [] =>
    if !negative then some (.integer significand)
    else if significand = 0 ∨ 0x8000_0000_0000_0000 < significand then
      some (signed (Decimal.nearest significand 0))
    else some (.integer (-(significand : Int)))
  | _, _, _ =>
    let (all, ignored) := Decimal.absorb significand (fraction.getD [])
    let kept : Int := ((fraction.getD []).length : Int) - ignored.length
    (Decimal.scaled all (dropped.length - kept + exponent.getD 0)).map signed

/-- Reads a number. -/
def readNumber (cs : List Char) : Option (JsonNumber × List Char) := do
  let (negative, cs) := match cs with
    | '-' :: r => (true, r)
    | r => (false, r)
  let whole := cs.takeWhile isDigit
  if whole.isEmpty || (whole.head? == some '0' && 1 < whole.length) then none
  let (fraction, cs) ← readFraction (cs.dropWhile isDigit)
  let (exponent, cs) ← readExponent cs
  return (← numberOf negative whole fraction exponent, cs)

/-- The character that a one-letter escape stands for. -/
def escapedChar? : Char → Option Char
  | '"' => some '"'
  | '\\' => some '\\'
  | '/' => some '/'
  | 'b' => some '\x08'
  | 'f' => some '\x0c'
  | 'n' => some '\n'
  | 'r' => some '\r'
  | 't' => some '\t'
  | _ => none

/-- Reads the code point after `\u`: four hexadecimal digits, or two such escapes that make up a
surrogate pair. -/
def readUnicode (cs : List Char) : Option (Char × List Char) := do
  let (high, rest) ← Text.takeHex 4 cs
  if 0xD800 ≤ high ∧ high ≤ 0xDBFF then
    match rest with
    | '\\' :: 'u' :: more =>
      let (low, rest) ← Text.takeHex 4 more
      if 0xDC00 ≤ low ∧ low ≤ 0xDFFF then
        return (← Text.charOf? (0x10000 + (high - 0xD800) * 0x400 + (low - 0xDC00)), rest)
      else none
    | _ => none
  else return (← Text.charOf? high, rest)

/-- Reads the rest of a string after its opening quote. The fuel is at least the length of the
text. -/
def readString : Nat → List Char → Option (List Char × List Char)
  | 0, _ => none
  | fuel + 1, cs =>
    match cs with
    | [] => none
    | '"' :: rest => some ([], rest)
    | '\\' :: 'u' :: rest => do
      let (c, rest) ← readUnicode rest
      let (more, rest) ← readString fuel rest
      return (c :: more, rest)
    | '\\' :: e :: rest => do
      let c ← escapedChar? e
      let (more, rest) ← readString fuel rest
      return (c :: more, rest)
    | c :: rest =>
      if c == '\\' || c.toNat < 0x20 then none
      else do
        let (more, rest) ← readString fuel rest
        return (c :: more, rest)

/-- Reads a string with its quotes. -/
def readQuoted : List Char → Option (String × List Char)
  | '"' :: rest => (readString (rest.length + 1) rest).map fun (s, r) => (String.ofList s, r)
  | _ => none

/-- Reads a value that is no container. -/
def readScalar (cs : List Char) : Option (Json × List Char) :=
  match cs with
  | '"' :: _ => (readQuoted cs).map fun (s, r) => (string s, r)
  | 'n' :: _ => readWord ['n', 'u', 'l', 'l'] null cs
  | 't' :: _ => readWord ['t', 'r', 'u', 'e'] (bool true) cs
  | 'f' :: _ => readWord ['f', 'a', 'l', 's', 'e'] (bool false) cs
  | _ => (readNumber cs).map fun (n, r) => (number n, r)

/-- Reads what follows an item of a container: a comma and more items, or the closing mark. -/
def readItems {α : Type} (item : List Char → Option (α × List Char)) (close : Char) :
    Nat → List Char → Option (List α × List Char)
  | 0, _ => none
  | fuel + 1, cs => do
    let (x, rest) ← item (skipBlanks cs)
    match skipBlanks rest with
    | ',' :: rest =>
      let (xs, rest) ← readItems item close fuel rest
      return (x :: xs, rest)
    | c :: rest => if c = close then return ([x], rest) else none
    | [] => none

/-- Reads the items of a container after its opening mark. -/
def readContainer {α : Type} (item : List Char → Option (α × List Char)) (close : Char)
    (cs : List Char) : Option (List α × List Char) :=
  match skipBlanks cs with
  | c :: rest => if c = close then some ([], rest) else readItems item close cs.length cs
  | [] => none

/-- Reads a member of an object, given the reader of its value. -/
def readMember (value : List Char → Option (Json × List Char)) (cs : List Char) :
    Option ((String × Json) × List Char) := do
  let (key, rest) ← readQuoted cs
  match skipBlanks rest with
  | ':' :: rest =>
    let (v, rest) ← value (skipBlanks rest)
    return ((key, v), rest)
  | _ => none

/-- Reads a value whose containers nest at most the given number of levels. -/
def readValue : Nat → List Char → Option (Json × List Char)
  | 0, cs => match cs with
    | '[' :: _ | '{' :: _ => none
    | _ => readScalar cs
  | levels + 1, cs => match cs with
    | '[' :: rest => (readContainer (readValue levels) ']' rest).map fun (xs, r) => (array xs, r)
    | '{' :: rest =>
      (readContainer (readMember (readValue levels)) '}' rest).map fun (ms, r) => (ofMembers ms, r)
    | _ => readScalar cs

/-- The value that a JSON text denotes. -/
def parse? (text : String) : Option Json := do
  let (v, rest) ← readValue 127 (skipBlanks text.toList)
  if (skipBlanks rest).isEmpty then return v else none

end QualityGate.Json
