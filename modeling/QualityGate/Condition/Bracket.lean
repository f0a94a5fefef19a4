import QualityGate.Text.Offset

/-!
# Bracket segments

A bracket segment of a path starts with `[` and ends with the `]` that matches it. Brackets may
nest, and those inside of strings do not count. A backslash in a string takes the meaning from the
character after it.
-/

namespace QualityGate.Condition

/-- Where a reader of a bracket segment stands. -/
inductive BracketState where
  /-- Outside of strings, with so many brackets open. -/
  | code (depth : Nat)
  /-- In a string. -/
  | quoted (depth : Nat) (quote : Char)
  /-- In a string, after a backslash. -/
  | escaped (depth : Nat) (quote : Char)
deriving DecidableEq

/-- The state after one more character. -/
def BracketState.step : BracketState → Char → BracketState
  | code depth, c =>
    if c = '\'' ∨ c = '"' then quoted depth c
    else if c = '[' then code (depth + 1)
    else if c = ']' then code (depth - 1)
    else code depth
  | quoted depth quote, c =>
    if c = '\\' then escaped depth quote
    else if c = quote then code depth
    else quoted depth quote
  | escaped depth quote, _ => quoted depth quote

/-- Cuts a text behind the character that closes all brackets. -/
def splitClosed? (s : BracketState) : List Char → Option (List Char × List Char)
  | [] => none
  | c :: rest =>
    if s.step c = .code 0 then some ([c], rest)
    else (splitClosed? (s.step c) rest).map fun (a, b) => (c :: a, b)

/-- Cuts the bracket segment off the start of a text. There is none if the text does not start with
a bracket or never closes it. -/
def splitBracket? : List Char → Option (List Char × List Char)
  | '[' :: rest => (splitClosed? (.code 1) rest).map fun (a, b) => ('[' :: a, b)
  | _ => none

/-- The number of bytes of the bracket segment at the start of a text. -/
def bracketLength? (cs : List Char) : Option Nat :=
  (splitBracket? cs).map fun (a, _) => Text.byteLength a

end QualityGate.Condition
