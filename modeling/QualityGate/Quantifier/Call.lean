import QualityGate.Text.Blank
import QualityGate.Text.Word

/-!
# Calls of quantifiers in a text

Whether the text of a condition calls a quantifier, and with which element conditions. Both are read
off the text alone: the name of a quantifier that is no part of a longer word and does not follow a
point, then an opening parenthesis. Element conditions are those that stand in quotes behind the
first comma.
-/

namespace QualityGate.Quantifier

/-- The rest of a text after the name of a quantifier. -/
def skipName? : List Char → Option (List Char)
  | 'a' :: 'l' :: 'l' :: rest => some rest
  | 'a' :: 'n' :: 'y' :: rest => some rest
  | 'o' :: 'n' :: 'e' :: rest => some rest
  | 'n' :: 'o' :: 'n' :: 'e' :: rest => some rest
  | _ => none

/-- The rest of a text after the name of a quantifier, blanks and an opening parenthesis. -/
def skipCall? (cs : List Char) : Option (List Char) := do
  match (← skipName? cs).dropWhile Text.isBlank with
  | '(' :: rest => some rest
  | _ => none

/-- Whether the name of a quantifier may stand behind the character. -/
def isBoundary (c : Char) : Bool := c != '.' && !Text.isWordChar c

/-- Whether a text calls a quantifier, where the flag says whether its start may be that of a
name. -/
def callsFrom (boundary : Bool) : List Char → Bool
  | [] => false
  | c :: rest => (boundary && (skipCall? (c :: rest)).isSome) || callsFrom (isBoundary c) rest

/-- Whether a condition calls a quantifier. -/
def isQuantified (condition : String) : Bool := callsFrom true condition.toList

/-! ## Element conditions -/

/-- The text in quotes up to the closing one, without the backslashes of its escapes, and the rest
behind it. A backslash does not escape a line break. -/
def readQuoted? (quote : Char) : List Char → Option (List Char × List Char)
  | [] => none
  | '\\' :: c :: rest =>
    if c = '\n' then none else (readQuoted? quote rest).map fun (a, b) => (c :: a, b)
  | c :: rest =>
    if c = quote then some ([], rest)
    else if c = '\\' then none
    else (readQuoted? quote rest).map fun (a, b) => (c :: a, b)

/-- The element condition of a call of a quantifier at the start of a text, and the rest behind
it. -/
def readElementCondition? (cs : List Char) : Option (List Char × List Char) := do
  match ((← skipCall? cs).dropWhile (· != ',')).tail.dropWhile Text.isBlank with
  | '\'' :: rest => readQuoted? '\'' rest
  | '"' :: rest => readQuoted? '"' rest
  | _ => none

/-- The element conditions in a text, where the flag says whether its start may be that of a name.
The bound is at least the length of the text. -/
def elementConditionsFrom : Nat → Bool → List Char → List (List Char)
  | 0, _, _ => []
  | _, _, [] => []
  | bound + 1, boundary, c :: rest =>
    match if boundary then readElementCondition? (c :: rest) else none with
    | some (condition, after) => condition :: elementConditionsFrom bound false after
    | none => elementConditionsFrom bound (isBoundary c) rest

/-- The element conditions that stand in quotes in a condition, in order. -/
def elementConditions (condition : String) : List String :=
  (elementConditionsFrom condition.length true condition.toList).map String.ofList

end QualityGate.Quantifier
