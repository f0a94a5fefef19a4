import QualityGate.Expression.Lexeme
import QualityGate.Expression.Value
import QualityGate.Decimal.Reading

/-!
# Literals

The values that literals denote. A text literal is read as a row of quoted pieces that are joined:
a quote opens a piece and the next quote of its kind closes it, so three quotes are an empty piece
and the opening of another. In a piece, an escaped quote of the other kind keeps its backslash.
-/

namespace QualityGate.Expression.Literal

/-- The value of decimal digits. -/
def decimalValue (ds : List Char) : Nat := ds.foldl (fun acc d => acc * 10 + (d.toNat - 48)) 0

/-- The signed integer that digits denote. Hexadecimal digits take no sign. -/
def integer? (negative : Bool) (cs : List Char) : Option Value := do
  let i : Int ← match cs with
    | '0' :: 'x' :: ds =>
      if negative then none else (Text.digitsValue? 16 Text.hexValue? ds).map Int.ofNat
    | ds => some (if negative then -(decimalValue ds : Int) else decimalValue ds)
  if -0x8000_0000_0000_0000 ≤ i ∧ i < 0x8000_0000_0000_0000 then return .int i else none

/-- The unsigned integer that digits and their mark denote. -/
def unsigned? (cs : List Char) : Option Value := do
  let n ← match cs.dropLast with
    | '0' :: 'x' :: ds => Text.digitsValue? 16 Text.hexValue? ds
    | ds => some (decimalValue ds)
  if n < 0x1_0000_0000_0000_0000 then return .uint n else none

/-- The double that digits with a point or an exponent denote, if it is finite. -/
def double? (negative : Bool) (cs : List Char) : Option Value :=
  let whole := cs.takeWhile Text.isDigit
  let rest := cs.dropWhile Text.isDigit
  let (fraction, rest) := match rest with
    | '.' :: r => (r.takeWhile Text.isDigit, r.dropWhile Text.isDigit)
    | r => ([], r)
  let exponent : Int := match rest with
    | _ :: '-' :: ds => -(decimalValue ds : Int)
    | _ :: '+' :: ds => decimalValue ds
    | _ :: ds => decimalValue ds
    | [] => 0
  let f := Decimal.nearest (decimalValue (whole ++ fraction)) (exponent - fraction.length)
  if f.isInf then none else some (.double (if negative then -f else f))

/-! ## Texts -/

/-- The value of octal digits. -/
def octalValue? (ds : List Char) : Option Nat :=
  if ds.all fun d => '0' ≤ d && d ≤ '7' then
    some (ds.foldl (fun acc d => acc * 8 + (d.toNat - 48)) 0)
  else none

/-- Reads an escape after its backslash, in a piece opened by the given quote. -/
def readEscape (quote : Char) (cs : List Char) : Option (List Char × List Char) :=
  let point (n : Nat) (rest : List Char) : Option (List Char × List Char) := do
    let (v, rest) ← Text.takeHex n rest
    return ([← Text.charOf? v], rest)
  match cs with
  | [] => none
  | c :: rest =>
    if c = 'a' then some (['\x07'], rest)
    else if c = 'b' then some (['\x08'], rest)
    else if c = 'v' then some (['\x0b'], rest)
    else if c = 'f' then some (['\x0c'], rest)
    else if c = 'n' then some (['\n'], rest)
    else if c = 'r' then some (['\r'], rest)
    else if c = 't' then some (['\t'], rest)
    else if c = '\\' || c = '?' || c = '\x60' then some ([c], rest)
    else if c = '\'' || c = '"' then some (if c = quote then [c] else ['\\', c], rest)
    else if c = 'x' then point 2 rest
    else if c = 'u' then point 4 rest
    else if c = 'U' then point 8 rest
    else if '0' ≤ c && c ≤ '3' && (rest.take 2).length = 2 then do
      let v ← octalValue? (c :: rest.take 2)
      return ([← Text.charOf? v], rest.drop 2)
    else none

/-- The text of quoted pieces. `piece` is the quote that opened the piece being read. The fuel is
at least the length of the literal. -/
def joinPieces (piece : Option Char) : Nat → List Char → Option (List Char)
  | 0, _ => none
  | fuel + 1, cs =>
    match piece, cs with
    | none, [] => some []
    | some _, [] => none
    | none, c :: rest =>
      if c == '\'' || c == '"' then joinPieces (some c) fuel rest else none
    | some q, '\\' :: rest => do
      let (chars, rest) ← readEscape q rest
      return chars ++ (← joinPieces (some q) fuel rest)
    | some q, c :: rest =>
      if c = q then joinPieces none fuel rest
      else (joinPieces (some q) fuel rest).map (c :: ·)

/-- The text of quoted pieces without escapes. Only the backslash before a quote of the piece's own
kind is dropped, and the last piece need not be closed. -/
def joinRawPieces (piece : Option Char) : Nat → List Char → Option (List Char)
  | 0, _ => none
  | fuel + 1, cs =>
    match piece, cs with
    | _, [] => some []
    | none, c :: rest =>
      if c == '\'' || c == '"' then joinRawPieces (some c) fuel rest else none
    | some q, '\\' :: c :: rest =>
      (joinRawPieces (some q) fuel rest).map fun more =>
        if c = q then c :: more else '\\' :: c :: more
    | some q, c :: rest =>
      if c = q then joinRawPieces none fuel rest
      else (joinRawPieces (some q) fuel rest).map (c :: ·)

/-- The text that a text literal denotes. -/
def text? (cs : List Char) : Option String :=
  match cs with
  | c :: rest =>
    if c == 'r' || c == 'R' then (joinRawPieces none (rest.length + 1) rest).map String.ofList
    else (joinPieces none (cs.length + 1) cs).map String.ofList
  | [] => none

/-! ## Bytes -/

/-- The bytes of a character. -/
def charBytes (c : Char) : List UInt8 := (String.ofList [c]).toUTF8.toList

/-- The value of two hexadecimal digits, or of a plus sign and one. -/
def readByte : List Char → Option (Nat × List Char)
  | '+' :: d :: rest => (Text.hexValue? d).map fun v => (v, rest)
  | cs => Text.takeHex 2 cs

/-- The bytes of the inside of a literal. Escapes give the value of one byte. -/
def readBytes : Nat → List Char → Option (List UInt8)
  | _, [] => some []
  | 0, _ => none
  | fuel + 1, '\\' :: 'x' :: rest => do
    let (v, rest) ← readByte rest
    return UInt8.ofNat v :: (← readBytes fuel rest)
  | fuel + 1, '\\' :: a :: b :: c :: rest => do
    if a < '0' || '3' < a then none
    let v ← octalValue? [a, b, c]
    return UInt8.ofNat v :: (← readBytes fuel rest)
  | fuel + 1, c :: rest => do
    if c == '\\' then none
    return charBytes c ++ (← readBytes fuel rest)

/-- The bytes that a literal of bytes denotes: those between its first two characters and its
last one. -/
def bytes? (cs : List Char) : Option Value :=
  let inside := (cs.drop 2).dropLast
  (readBytes inside.length inside).map Value.bytes

end QualityGate.Expression.Literal
