import QualityGate.Text.Blank

/-!
# Lexemes of expressions

An expression is cut into lexemes, and each keeps the characters it was cut from, blanks and
comments included; so the texts of the lexemes make up the expression again. At each place the
longest lexeme is taken. A text literal in three quotes may contain line breaks and single quotes;
one that is never closed falls apart into an empty literal and what follows it.
-/

namespace QualityGate.Expression

open Text (isDigit)

/-- What a lexeme is. -/
inductive LexemeKind where
  | blank
  | comment
  | name
  /-- The name of a field between two backquotes, which belong to the name. -/
  | quotedName
  | integer
  | unsigned
  | double
  | text
  | bytes
  | sign
deriving DecidableEq

/-- A piece of an expression: what it is, and its characters. -/
structure Lexeme where
  kind : LexemeKind
  chars : List Char
deriving DecidableEq

namespace Lexeme

/-- Whether the character is a blank of expressions. -/
def isBlank (c : Char) : Bool :=
  c == ' ' || c == '\t' || c == '\n' || c == '\r' || c == '\x0c'

/-- Whether the character is a hexadecimal digit. -/
def isHexDigit (c : Char) : Bool := (Text.hexValue? c).isSome

/-! ## Numbers

The functions of this section and the next give the length of a lexeme of one form at the start of
a text, or zero if there is none. -/

/-- The length of the run of digits at the start. -/
def digitsLength (cs : List Char) : Nat := (cs.takeWhile isDigit).length

/-- The length of an exponent: its mark, an optional sign and digits. -/
def exponentLength : List Char → Nat
  | e :: rest =>
    if e == 'e' || e == 'E' then
      match rest with
      | s :: more =>
        if s == '+' || s == '-' then
          if digitsLength more = 0 then 0 else 2 + digitsLength more
        else if digitsLength rest = 0 then 0 else 1 + digitsLength rest
      | [] => 0
    else 0
  | [] => 0

/-- The length of a fraction: a point and digits. -/
def fractionLength : List Char → Nat
  | '.' :: rest => if digitsLength rest = 0 then 0 else 1 + digitsLength rest
  | _ => 0

/-- Whether the text starts with the mark of unsigned numbers. -/
def startsUnsigned : List Char → Bool
  | c :: _ => c == 'u' || c == 'U'
  | [] => false

/-- Cuts a lexeme of the given kind and length off the text. -/
def cut (kind : LexemeKind) (length : Nat) (cs : List Char) : Lexeme × List Char :=
  (⟨kind, cs.take length⟩, cs.drop length)

/-- Cuts off a number without fraction and exponent, with its mark if it is unsigned. -/
def cutWhole (length : Nat) (cs : List Char) : Lexeme × List Char :=
  if startsUnsigned (cs.drop length) then cut .unsigned (length + 1) cs else cut .integer length cs

/-- Cuts off a number at the start of a text that begins with a digit. -/
def cutNumber (cs : List Char) : Lexeme × List Char :=
  let hex := match cs with
    | '0' :: 'x' :: rest => (rest.takeWhile isHexDigit).length
    | _ => 0
  if hex ≠ 0 then cutWhole (2 + hex) cs
  else
    let whole := digitsLength cs
    let fraction := fractionLength (cs.drop whole)
    let exponent := exponentLength (cs.drop (whole + fraction))
    if fraction + exponent = 0 then cutWhole whole cs
    else cut .double (whole + fraction + exponent) cs

/-! ## Literals of texts and bytes -/

/-- Whether the first `n` characters are there and satisfy `p`. -/
def allOf (n : Nat) (p : Char → Bool) (cs : List Char) : Bool :=
  (cs.take n).length == n && (cs.take n).all p

/-- The length of an escape after its backslash. -/
def escapeLength : List Char → Nat
  | c :: rest =>
    if ['a', 'b', 'f', 'n', 'r', 't', 'v', '"', '\'', '\\', '?', '\x60'].contains c then 1
    else if c == 'x' || c == 'X' then if allOf 2 isHexDigit rest then 3 else 0
    else if c == 'u' then if allOf 4 isHexDigit rest then 5 else 0
    else if c == 'U' then if allOf 8 isHexDigit rest then 9 else 0
    else if '0' ≤ c && c ≤ '3' then
      if allOf 2 (fun d => '0' ≤ d && d ≤ '7') rest then 3 else 0
    else 0
  | [] => 0

/-- The length of the rest of a literal in single quotes, with its closing quote. -/
def lineLength (raw : Bool) (quote : Char) : Nat → List Char → Nat
  | 0, _ => 0
  | fuel + 1, cs =>
    match cs with
    | [] => 0
    | c :: rest =>
      if c = quote then 1
      else if c == '\n' || c == '\r' then 0
      else
        let step := if !raw && c == '\\' then
            if escapeLength rest = 0 then 0 else 1 + escapeLength rest
          else 1
        if step = 0 then 0
        else
          let more := lineLength raw quote fuel (cs.drop step)
          if more = 0 then 0 else step + more

/-- The length of the rest of a literal in triple quotes, with its closing quotes. -/
def blockLength (raw : Bool) (quote : Char) : Nat → List Char → Nat
  | 0, _ => 0
  | fuel + 1, cs =>
    match cs with
    | [] => 0
    | c :: rest =>
      if [quote, quote, quote].isPrefixOf cs then 3
      else
        let step := if !raw && c == '\\' then
            if escapeLength rest = 0 then 0 else 1 + escapeLength rest
          else 1
        if step = 0 then 0
        else
          let more := blockLength raw quote fuel (cs.drop step)
          if more = 0 then 0 else step + more

/-- The length of a literal that starts with a quote. -/
def quotedLength (raw : Bool) (cs : List Char) : Nat :=
  match cs with
  | q :: rest =>
    if q == '\'' || q == '"' then
      let block := if [q, q, q].isPrefixOf cs then blockLength raw q cs.length (cs.drop 3) else 0
      if block ≠ 0 then 3 + block
      else
        let line := lineLength raw q cs.length rest
        if line = 0 then 0 else 1 + line
    else 0
  | [] => 0

/-- The length of a text literal, with the mark of a raw one. -/
def textLength : List Char → Nat
  | c :: rest =>
    if c == 'r' || c == 'R' then
      if quotedLength true rest = 0 then 0 else 1 + quotedLength true rest
    else quotedLength false (c :: rest)
  | [] => 0

/-- The length of a literal of bytes: a mark and a text literal. -/
def bytesLength : List Char → Nat
  | c :: rest =>
    if c == 'b' || c == 'B' then if textLength rest = 0 then 0 else 1 + textLength rest else 0
  | [] => 0

/-! ## All lexemes -/

/-- Whether the character may stand between the backquotes of a name. -/
def isQuotable (c : Char) : Bool :=
  Text.isNameRest c || c == '.' || c == '-' || c == '/' || c == ' '

/-- The length of a name between two backquotes. -/
def quotedNameLength : List Char → Nat
  | '\x60' :: rest =>
    let inside := (rest.takeWhile isQuotable).length
    if inside ≠ 0 && (rest.drop inside).head? == some '\x60' then inside + 2 else 0
  | _ => 0

/-- The signs of two characters. -/
def isPair (a b : Char) : Bool :=
  (b == '=' && (a == '=' || a == '!' || a == '<' || a == '>'))
    || (a == '&' && b == '&') || (a == '|' && b == '|')

/-- The signs of one character. -/
def isSingle (c : Char) : Bool :=
  ['<', '>', '[', ']', '\x7b', '\x7d', '(', ')', '.', ',', '-', '!', '?', ':', '+', '*', '/',
    '%'].contains c

/-- The length of a sign. -/
def signLength : List Char → Nat
  | a :: b :: _ => if isPair a b then 2 else if isSingle a then 1 else 0
  | [a] => if isSingle a then 1 else 0
  | [] => 0

/-- Cuts the longest lexeme off the text. -/
def next (cs : List Char) : Option (Lexeme × List Char) :=
  match cs with
  | [] => none
  | c :: rest =>
    if isBlank c then some (cut .blank (cs.takeWhile isBlank).length cs)
    else if ['/', '/'].isPrefixOf cs then
      some (cut .comment (cs.takeWhile (· != '\n')).length cs)
    else if isDigit c then some (cutNumber cs)
    else if c == '.' && fractionLength cs ≠ 0 then
      let fraction := fractionLength cs
      some (cut .double (fraction + exponentLength (cs.drop fraction)) cs)
    else if textLength cs ≠ 0 then some (cut .text (textLength cs) cs)
    else if bytesLength cs ≠ 0 then some (cut .bytes (bytesLength cs) cs)
    else if Text.isNameStart c then
      some (cut .name (1 + (rest.takeWhile Text.isNameRest).length) cs)
    else if quotedNameLength cs ≠ 0 then some (cut .quotedName (quotedNameLength cs) cs)
    else if signLength cs ≠ 0 then some (cut .sign (signLength cs) cs)
    else none

/-- Cuts a text into lexemes. The fuel is at least the length of the text. -/
def splitAll : Nat → List Char → Option (List Lexeme)
  | _, [] => some []
  | 0, _ => none
  | fuel + 1, cs => do
    let (l, rest) ← next cs
    return l :: (← splitAll fuel rest)

/-- The lexemes of a text. There are none if some place of it starts no lexeme. -/
def split? (cs : List Char) : Option (List Lexeme) := splitAll cs.length cs

/-- Whether the lexeme means something: it is neither a blank nor a comment. -/
def isToken (l : Lexeme) : Bool := l.kind != .blank && l.kind != .comment

end Lexeme

end QualityGate.Expression
