import QualityGate.Json.Basic
import QualityGate.Decimal.Layout

/-!
# Writing JSON texts

The two renderings of a JSON value: `Json.compact`, on one line and without blanks, and
`Json.pretty`, with each item on a line of its own and two more blanks of indentation per level.
Neither escapes characters beyond the quote, the backslash and the control characters.
-/

namespace QualityGate.Json

/-- A hexadecimal digit in small letters. -/
def hexDigit (n : Nat) : Char := Nat.digitChar n

/-- The characters that stand for one character of a string. -/
def escapeChar (c : Char) : List Char :=
  if c = '"' then ['\\', '"']
  else if c = '\\' then ['\\', '\\']
  else if c = '\n' then ['\\', 'n']
  else if c = '\r' then ['\\', 'r']
  else if c = '\t' then ['\\', 't']
  else if c.toNat = 8 then ['\\', 'b']
  else if c.toNat = 12 then ['\\', 'f']
  else if c.toNat < 32 then
    ['\\', 'u', '0', '0', hexDigit (c.toNat / 16), hexDigit (c.toNat % 16)]
  else [c]

/-- A string with its quotes and escapes. -/
def quote (s : String) : List Char := '"' :: (s.toList.flatMap escapeChar ++ ['"'])

/-- The text of an integer. -/
def integerText (i : Int) : List Char :=
  if i < 0 then '-' :: Decimal.digitsOf i.natAbs else Decimal.digitsOf i.natAbs

/-- The text of a number. A double that is not finite has no JSON form and is written as `null`. -/
def numberText : JsonNumber → List Char
  | .integer i => integerText i
  | .double f =>
    if f.isNaN || f.isInf then ['n', 'u', 'l', 'l'] else (Decimal.Layout.json.render f).toList

mutual

/-- The characters of the rendering on one line. -/
def compactText : Json → List Char
  | null => ['n', 'u', 'l', 'l']
  | bool true => ['t', 'r', 'u', 'e']
  | bool false => ['f', 'a', 'l', 's', 'e']
  | number n => numberText n
  | string s => quote s
  | array items => '[' :: (compactItems items ++ [']'])
  | object members => '{' :: (compactMembers members ++ ['}'])

/-- The items of an array, with commas between them. -/
def compactItems : List Json → List Char
  | [] => []
  | [x] => compactText x
  | x :: xs => compactText x ++ ',' :: compactItems xs

/-- The members of an object, with commas between them. -/
def compactMembers : List (String × Json) → List Char
  | [] => []
  | [(k, v)] => quote k ++ ':' :: compactText v
  | (k, v) :: rest => quote k ++ ':' :: (compactText v ++ ',' :: compactMembers rest)

end

/-- A line break followed by the indentation of the given level. -/
def newLine (level : Nat) : List Char := '\n' :: List.replicate (2 * level) ' '

mutual

/-- The characters of the indented rendering, with its own lines at the given level. -/
def prettyText (level : Nat) : Json → List Char
  | array (x :: xs) => '[' :: (prettyItems (level + 1) (x :: xs) ++ newLine level ++ [']'])
  | object (m :: ms) => '{' :: (prettyMembers (level + 1) (m :: ms) ++ newLine level ++ ['}'])
  | array [] => ['[', ']']
  | object [] => ['{', '}']
  | null => ['n', 'u', 'l', 'l']
  | bool true => ['t', 'r', 'u', 'e']
  | bool false => ['f', 'a', 'l', 's', 'e']
  | number n => numberText n
  | string s => quote s

/-- The items of an array, each on its own line. -/
def prettyItems (level : Nat) : List Json → List Char
  | [] => []
  | [x] => newLine level ++ prettyText level x
  | x :: xs => newLine level ++ prettyText level x ++ ',' :: prettyItems level xs

/-- The members of an object, each on its own line. -/
def prettyMembers (level : Nat) : List (String × Json) → List Char
  | [] => []
  | [(k, v)] => newLine level ++ quote k ++ ':' :: ' ' :: prettyText level v
  | (k, v) :: rest =>
    newLine level ++ quote k
      ++ ':' :: ' ' :: (prettyText level v ++ ',' :: prettyMembers level rest)

end

/-- The rendering on one line. -/
def compact (v : Json) : String := String.ofList (compactText v)

/-- The indented rendering. -/
def pretty (v : Json) : String := String.ofList (prettyText 0 v)

end QualityGate.Json
