import QualityGate.Decimal.Layout
import QualityGate.Decimal.Reading
import QualityGate.Text.Blank

/-!
# Spans of time

The spans that expressions compute with: signed numbers of nanoseconds. A span is written as hours,
minutes and seconds, or in one smaller unit if it is shorter than a second, and read as a row of
numbers with units.
-/

namespace QualityGate.Time

/-- A signed number of nanoseconds. -/
abbrev Span := Int

/-- The greatest number of nanoseconds, up or down, that a span may hold: `2 ^ 63 - 1`
milliseconds. -/
def Span.limit : Int := 0x7FFF_FFFF_FFFF_FFFF * 1_000_000

/-- The span, unless it is beyond the limit. -/
def Span.checked? (s : Span) : Option Span :=
  if -Span.limit ≤ s ∧ s ≤ Span.limit then some s else none

/-! ## Writing -/

/-- A natural number of units with at most `places` decimals and no zeros at their end, where
`10 ^ places` parts make a unit. -/
def unitsText (parts places : Nat) : List Char :=
  let unit := Nat.pow 10 places
  let fraction := Decimal.digitsOf (parts % unit + unit)
  let kept := ((fraction.drop 1).reverse.dropWhile (· == '0')).reverse
  Decimal.digitsOf (parts / unit) ++ (if kept.isEmpty then [] else '.' :: kept)

/-- The text of a span without its sign. -/
def magnitudeText (n : Nat) : List Char :=
  if n = 0 then ['0', 's']
  else if n < 1000 then unitsText n 0 ++ ['n', 's']
  else if n < 1_000_000 then unitsText n 3 ++ ['µ', 's']
  else if n < 1_000_000_000 then unitsText n 6 ++ ['m', 's']
  else
    let minutes := n / 60_000_000_000
    let seconds := unitsText (n % 60_000_000_000) 9 ++ ['s']
    if minutes = 0 then seconds
    else
      let hours := minutes / 60
      let rest := Decimal.digitsOf (minutes % 60) ++ 'm' :: seconds
      if hours = 0 then rest else Decimal.digitsOf hours ++ 'h' :: rest

/-- The text of a span, if it has one. The text of a negative span is a minus sign and the text of
what is left of `2 ^ 64` nanoseconds. Beyond 64 signed bits, only whole seconds are written, and
only those of a positive span that fits 64 bits without a sign. -/
def Span.render? (s : Span) : Option String :=
  let seconds := s / 1_000_000_000 * 1_000_000_000
  if s < -0x8000_0000_0000_0000 then none
  else if s < 0 then
    some (String.ofList ('-' :: magnitudeText (0x1_0000_0000_0000_0000 + s).toNat))
  else if s < 0x8000_0000_0000_0000 then some (String.ofList (magnitudeText s.toNat))
  else if seconds < 0x1_0000_0000_0000_0000 then some (String.ofList (magnitudeText seconds.toNat))
  else none

/-! ## Reading -/

/-- What the start of a text gave: nothing of the form, a form that broke off, or a value. -/
inductive Attempt (α : Type) where
  | absent
  | broken
  | found (value : α) (rest : List Char)

/-- Whether the text starts with a word in small letters, in any mix of cases. -/
def startsWithWord (word : List Char) (cs : List Char) : Bool :=
  word.isPrefixOf (cs.map Char.toLower)

/-- Reads a decimal number with an optional sign, point and exponent. -/
def readDecimal (cs : List Char) : Attempt Float :=
  let (negative, body) := match cs with
    | '-' :: r => (true, r)
    | '+' :: r => (false, r)
    | r => (false, r)
  let whole := body.takeWhile Text.isDigit
  let (fraction, rest) : List Char × List Char := match body.dropWhile Text.isDigit with
    | '.' :: r =>
      let ds := r.takeWhile Text.isDigit
      if whole.isEmpty && ds.isEmpty then ([], '.' :: r) else (ds, r.dropWhile Text.isDigit)
    | r => ([], r)
  let value (e : Int) : Float :=
    let digits := (whole ++ fraction).foldl (fun acc d => acc * 10 + (d.toNat - 48)) 0
    let f := Decimal.nearest digits (e - fraction.length)
    if negative then -f else f
  if whole.isEmpty && fraction.isEmpty then
    if startsWithWord ['n', 'a', 'n'] cs then .found (0.0 / 0.0) (cs.drop 3)
    else if startsWithWord ['i', 'n', 'f'] cs then .found (1.0 / 0.0) (cs.drop 3)
    else .absent
  else match rest with
    | e :: r =>
      if e == 'e' || e == 'E' then
        let (down, ds) := match r with
          | '-' :: r => (true, r)
          | '+' :: r => (false, r)
          | r => (false, r)
        let exponent := ds.takeWhile Text.isDigit
        if exponent.isEmpty then .broken
        else
          let n : Nat := exponent.foldl (fun acc d => acc * 10 + (d.toNat - 48)) 0
          .found (value (if down then -(n : Int) else n)) (ds.dropWhile Text.isDigit)
      else .found (value 0) rest
    | [] => .found (value 0) []

/-- Reads a unit and returns its nanoseconds. -/
def readUnit : List Char → Option (Nat × List Char)
  | 'm' :: 's' :: r => some (1_000_000, r)
  | 'u' :: 's' :: r => some (1000, r)
  | 'n' :: 's' :: r => some (1, r)
  | 'h' :: r => some (3_600_000_000_000, r)
  | 'm' :: r => some (60_000_000_000, r)
  | 's' :: r => some (1_000_000_000, r)
  | _ => none

/-- A double cut to an integer, kept within 64 signed bits. Not-a-number gives zero. -/
def cutToInt64 (f : Float) : Int :=
  if f.isNaN then 0
  else if f ≥ 9223372036854775808.0 then 0x7FFF_FFFF_FFFF_FFFF
  else if f ≤ -9223372036854775808.0 then -0x8000_0000_0000_0000
  else
    let b := Decimal.Binary.ofBits f.toBits
    let n : Nat := if 0 ≤ b.exponent then b.mantissa <<< b.exponent.toNat
      else b.mantissa >>> (-b.exponent).toNat
    if f < 0.0 then -(n : Int) else n

/-- Reads numbers with units and adds them up, from the first one on. Reading ends quietly where
no further number with a unit follows. -/
def readSum : Nat → Option Span → List Char → Option Span
  | 0, acc, _ => acc
  | fuel + 1, acc, cs =>
    match readDecimal cs with
    | .broken => none
    | .absent => acc
    | .found f rest =>
      match readUnit rest with
      | none => acc
      | some (unit, rest) =>
        readSum fuel (some (acc.getD 0 + cutToInt64 (f * Decimal.nearest unit 0))) rest

/-- The span that a text starts with. What follows it is not looked at. -/
def Span.parse? (text : String) : Option Span :=
  let (negative, cs) := match text.toList with
    | '-' :: r => (true, r)
    | r => (false, r)
  if cs = ['0'] then some 0
  else (readSum (cs.length + 1) none cs).map fun s => if negative then -s else s

end QualityGate.Time
