import QualityGate.Decimal.Layout
import QualityGate.Text.Blank

/-!
# Texts of timeouts

A timeout is a natural number of nanoseconds. Its text is a row of numbers with units, the largest
unit first. Where one is read, the units may stand in any order and recur, numbers may have a
fraction, and blanks may stand between all parts and even between the digits of a number.

Whole seconds are limited to 64 bits, and so is every number on the way to them.
-/

namespace QualityGate.Time.Timeout

/-! ## Writing -/

/-- The seconds of a month, which has 30.44 days. -/
def monthSeconds : Nat := 2630016

/-- The seconds of a year, which has 365.25 days. -/
def yearSeconds : Nat := 31557600

/-- The part of a text for a number of units, if it is not zero. -/
def part (n : Nat) (unit : List Char) : List (List Char) :=
  if n = 0 then [] else [Decimal.digitsOf n ++ unit]

/-- The part of a text for a number of units whose name has a plural. -/
def partNamed (n : Nat) (unit : List Char) : List (List Char) :=
  part n (if 1 < n then unit ++ ['s'] else unit)

/-- The parts of the text of a timeout. -/
def parts (timeout : Nat) : List (List Char) :=
  let seconds := timeout / 1_000_000_000
  let nanos := timeout % 1_000_000_000
  let yearRest := seconds % yearSeconds
  let monthRest := yearRest % monthSeconds
  let dayRest := monthRest % 86400
  partNamed (seconds / yearSeconds) ['y', 'e', 'a', 'r']
    ++ partNamed (yearRest / monthSeconds) ['m', 'o', 'n', 't', 'h']
    ++ partNamed (monthRest / 86400) ['d', 'a', 'y']
    ++ part (dayRest / 3600) ['h']
    ++ part (dayRest % 3600 / 60) ['m']
    ++ part (dayRest % 60) ['s']
    ++ part (nanos / 1_000_000) ['m', 's']
    ++ part (nanos / 1000 % 1000) ['u', 's']
    ++ part (nanos % 1000) ['n', 's']

/-- Parts with a blank between them. -/
def joinParts : List (List Char) → List Char
  | [] => []
  | [p] => p
  | p :: rest => p ++ ' ' :: joinParts rest

/-- The text of a timeout. -/
def render (timeout : Nat) : String :=
  String.ofList (if timeout = 0 then ['0', 's'] else joinParts (parts timeout))

/-! ## Reading -/

/-- A unit of time. -/
inductive TimeUnit where
  /-- A part of a second, in nanoseconds. -/
  | small (nanos : Nat)
  /-- A number of seconds. -/
  | large (seconds : Nat)
deriving DecidableEq

/-- The unit of a name. -/
def unit? (name : List Char) : Option TimeUnit :=
  let name := String.ofList name
  if ["nanos", "nsec", "ns"].contains name then some (.small 1)
  else if ["usec", "us", "µs"].contains name then some (.small 1000)
  else if ["millis", "msec", "ms"].contains name then some (.small 1_000_000)
  else if ["seconds", "second", "secs", "sec", "s"].contains name then some (.large 1)
  else if ["minutes", "minute", "min", "mins", "m"].contains name then some (.large 60)
  else if ["hours", "hour", "hrs", "hr", "h"].contains name then some (.large 3600)
  else if ["days", "day", "d"].contains name then some (.large 86400)
  else if ["weeks", "week", "wks", "wk", "w"].contains name then some (.large (7 * 86400))
  else if ["months", "month", "M"].contains name then some (.large monthSeconds)
  else if ["years", "year", "yrs", "yr", "y"].contains name then some (.large yearSeconds)
  else none

/-- The number, if it fits 64 bits. -/
def fit (n : Nat) : Option Nat := if n < 0x1_0000_0000_0000_0000 then some n else none

/-- Adds seconds and nanoseconds to a timeout. -/
def add (timeout seconds nanos : Nat) : Option Nat := do
  let nanos ← fit (timeout % 1_000_000_000 + nanos)
  let seconds ← fit (timeout / 1_000_000_000 + (← fit (seconds + nanos / 1_000_000_000)))
  return seconds * 1_000_000_000 + nanos % 1_000_000_000

/-- Adds a whole number of units to a timeout. -/
def addWhole (timeout n : Nat) : TimeUnit → Option Nat
  | .small nanos => do add timeout 0 (← fit (n * nanos))
  | .large seconds => do add timeout (← fit (n * seconds)) 0

/-- Adds a fraction of a unit to a timeout. Fractions of units from an hour on are cut to whole
seconds, and those of smaller units to whole nanoseconds. -/
def addFraction (timeout numerator denominator : Nat) : TimeUnit → Option Nat
  | .small nanos => do add timeout 0 ((← fit (numerator * nanos)) / denominator)
  | .large seconds =>
    if seconds < 3600 then do
      add timeout 0 ((← fit (numerator * (seconds * 1_000_000_000))) / denominator)
    else do add timeout ((← fit (numerator * seconds)) / denominator) 0

/-- Whether the character may be part of the name of a unit. -/
def isUnitChar (c : Char) : Bool := Text.isLetter c || c == 'µ'

/-- Reads digits up to the first letter, over blanks, as a number that goes on from `acc`. Returns
what comes behind: the letters, or a point. -/
def readNumber (acc : Nat) : List Char → Option (Nat × List Char)
  | [] => some (acc, [])
  | c :: rest =>
    if Text.isDigit c then do readNumber (← fit (acc * 10 + (c.toNat - 48))) rest
    else if Text.isBlank c then readNumber acc rest
    else if isUnitChar c || c == '.' then some (acc, c :: rest)
    else none

/-- Reads the digits of a fraction up to the first letter, over blanks. -/
def readFraction (numerator denominator : Nat) : List Char → Option ((Nat × Nat) × List Char)
  | [] => if denominator = 1 then none else some ((numerator, denominator), [])
  | c :: rest =>
    if Text.isDigit c then do
      readFraction (← fit (numerator * 10 + (c.toNat - 48))) (← fit (denominator * 10)) rest
    else if Text.isBlank c then readFraction numerator denominator rest
    else if isUnitChar c && denominator != 1 then some ((numerator, denominator), c :: rest)
    else none

/-- Reads a number with its unit from a text that starts with a digit, and adds it to a timeout. -/
def readPart (timeout : Nat) (cs : List Char) : Option (Nat × List Char) := do
  let (n, rest) ← readNumber 0 cs
  match rest with
  | '.' :: rest =>
    let ((numerator, denominator), rest) ← readFraction 0 1 rest
    let unit ← unit? (rest.takeWhile isUnitChar)
    let timeout ← addWhole timeout n unit
    return (← addFraction timeout numerator denominator unit, rest.dropWhile isUnitChar)
  | rest =>
    let unit ← unit? (rest.takeWhile isUnitChar)
    return (← addWhole timeout n unit, rest.dropWhile isUnitChar)

/-- Reads all parts of a text. The fuel is greater than the length of the text. -/
def readParts : Nat → Nat → List Char → Option Nat
  | 0, _, _ => none
  | fuel + 1, timeout, cs =>
    match cs.dropWhile Text.isBlank with
    | [] => some timeout
    | c :: rest =>
      if Text.isDigit c then do
        let (timeout, rest) ← readPart timeout (c :: rest)
        readParts fuel timeout rest
      else none

/-- The timeout of a text. It has at least one part, but for a lone zero. -/
def parse? (text : String) : Option Nat :=
  let cs := text.toList
  if cs = ['0'] then some 0
  else if cs.all Text.isBlank then none
  else readParts (cs.length + 1) 0 cs

end QualityGate.Time.Timeout
