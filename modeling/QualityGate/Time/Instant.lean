import QualityGate.Time.Span

/-!
# Instants

Points in time with the offset of the clock they were read from. Two instants are the same when they
are the same point in time, whatever their offsets; the parts of the date and of the time of day are
those of the offset. Dates are Gregorian throughout.
-/

namespace QualityGate.Time

/-- A point in time: seconds since the start of 1970, nanoseconds within the second, and the offset
of the local clock in seconds. The nanoseconds reach beyond one second in a leap second. -/
structure Instant where
  seconds : Int
  nanos : Nat
  offset : Int

/-- A day of the calendar. -/
structure Date where
  year : Int
  month : Nat
  day : Nat

/-! ## The calendar -/

/-- Whether a year has 366 days. -/
def isLeapYear (y : Int) : Bool := y % 4 == 0 && (y % 100 != 0 || y % 400 == 0)

/-- The number of days of a month. -/
def daysInMonth (y : Int) (m : Nat) : Nat :=
  if m = 2 then (if isLeapYear y then 29 else 28)
  else if m = 4 ∨ m = 6 ∨ m = 9 ∨ m = 11 then 30 else 31

/-- The number of days from the first of January 1970 to a date. Years are counted from March, so
that the leap day comes last. -/
def Date.toDays (d : Date) : Int :=
  let y := if d.month ≤ 2 then d.year - 1 else d.year
  let era := y / 400
  let yearOfEra := y % 400
  let dayOfYear := (153 * ((d.month + 9) % 12) + 2) / 5 + d.day - 1
  let dayOfEra := yearOfEra * 365 + yearOfEra / 4 - yearOfEra / 100 + dayOfYear
  era * 146097 + dayOfEra - 719468

/-- The date a number of days after the first of January 1970. -/
def Date.ofDays (n : Int) : Date :=
  let z := n + 719468
  let era := z / 146097
  let dayOfEra := z % 146097
  let yearOfEra :=
    (dayOfEra - dayOfEra / 1460 + dayOfEra / 36524 - dayOfEra / 146096) / 365
  let dayOfYear := dayOfEra - (365 * yearOfEra + yearOfEra / 4 - yearOfEra / 100)
  let shifted := (5 * dayOfYear + 2) / 153
  let day := dayOfYear - (153 * shifted + 2) / 5 + 1
  let month := if shifted < 10 then shifted + 3 else shifted - 9
  let year := yearOfEra + era * 400
  ⟨if month ≤ 2 then year + 1 else year, month.toNat, day.toNat⟩

namespace Instant

/-- The seconds that the local clock shows, counted from the start of 1970. -/
def localSeconds (t : Instant) : Int := t.seconds + t.offset

/-- The local date. -/
def date (t : Instant) : Date := Date.ofDays (t.localSeconds / 86400)

/-- The local second of the day. -/
def secondOfDay (t : Instant) : Nat := (t.localSeconds % 86400).toNat

/-- The number of days of the local year before the local date. -/
def dayOfYear (t : Instant) : Int :=
  t.date.toDays - (⟨t.date.year, 1, 1⟩ : Date).toDays

/-- The local day of the week, counted from Sunday. -/
def dayOfWeek (t : Instant) : Int := (t.localSeconds / 86400 + 4) % 7

/-- The nanoseconds from the start of 1970. -/
def totalNanos (t : Instant) : Int := t.seconds * 1_000_000_000 + t.nanos

/-- Whether the instant lies within the years that a calendar date can hold. -/
def inCalendar (t : Instant) : Bool :=
  (⟨-262143, 1, 1⟩ : Date).toDays * 86400 ≤ t.seconds
    && t.seconds < (⟨262143, 1, 1⟩ : Date).toDays * 86400

/-! ## Computing

A leap second follows the last second of a minute. An instant inside of one leaves it after what is
left of it, forwards or backwards; no other instant is moved into one. -/

/-- Whether the instant lies in a leap second. -/
def inLeapSecond (t : Instant) : Bool := 1_000_000_000 ≤ t.nanos

/-- The instant at which a clock stands that showed the given second and moved by some
nanoseconds. -/
def moved (seconds nanos offset : Int) : Instant :=
  ⟨seconds + nanos / 1_000_000_000, (nanos % 1_000_000_000).toNat, offset⟩

/-- The instant a span later, or earlier if the span is negative. -/
def shift (t : Instant) (s : Span) : Instant :=
  let whole := s.tdiv 1_000_000_000
  let part := s.tmod 1_000_000_000
  if t.inLeapSecond then
    if 0 < whole ∨ (0 < part ∧ 2 * 1_000_000_000 ≤ t.nanos + part) then
      moved (t.seconds + whole) (t.nanos - 1_000_000_000 + part) t.offset
    else if whole < 0 then moved (t.seconds + 1 + whole) (t.nanos - 1_000_000_000 + part) t.offset
    else ⟨t.seconds, (t.nanos + part).toNat, t.offset⟩
  else moved (t.seconds + whole) (t.nanos + part) t.offset

/-- The span from the second instant to the first. A leap second counts if it ends between the two
times of day. -/
def since (t u : Instant) : Span :=
  let s := t.seconds % 86400
  let r := u.seconds % 86400
  let leap : Int := if r < s && u.inLeapSecond then 1 else if s < r && t.inLeapSecond then -1 else 0
  (t.seconds - u.seconds + leap) * 1_000_000_000 + (t.nanos - u.nanos)

/-- The order of two instants. A leap second comes after the second that it follows. -/
def order (t u : Instant) : Ordering :=
  (compare t.seconds u.seconds).then (compare t.nanos u.nanos)

/-! ## Writing -/

/-- The digits of a number with zeros in front up to the given width. -/
def padded (width n : Nat) : List Char :=
  let ds := Decimal.digitsOf n
  List.replicate (width - ds.length) '0' ++ ds

/-- The fraction of a second in three, six or nine digits, as few as are needed. -/
def fractionText (nanos : Nat) : List Char :=
  if nanos = 0 then []
  else if nanos % 1_000_000 = 0 then '.' :: padded 3 (nanos / 1_000_000)
  else if nanos % 1000 = 0 then '.' :: padded 6 (nanos / 1000)
  else '.' :: padded 9 nanos

/-- The year in four digits, with a sign when that is not enough. -/
def yearText (y : Int) : List Char :=
  if 0 ≤ y ∧ y ≤ 9999 then padded 4 y.toNat
  else (if y < 0 then '-' else '+') :: padded 4 y.natAbs

/-- The text of an instant: date, time of day and offset. -/
def render (t : Instant) : String :=
  let d := t.date
  let s := t.secondOfDay
  let leap := if 1_000_000_000 ≤ t.nanos then 1 else 0
  let o := t.offset.natAbs
  String.ofList (yearText d.year ++ '-' :: padded 2 d.month ++ '-' :: padded 2 d.day
    ++ 'T' :: padded 2 (s / 3600) ++ ':' :: padded 2 (s / 60 % 60)
    ++ ':' :: padded 2 (s % 60 + leap)
    ++ fractionText (t.nanos % 1_000_000_000)
    ++ (if t.offset < 0 then '-' else '+') :: padded 2 (o / 3600) ++ ':' :: padded 2 (o / 60 % 60))

/-! ## Reading -/

/-- Reads exactly `n` digits. -/
def readDigits (n : Nat) (cs : List Char) : Option (Nat × List Char) :=
  let ds := cs.take n
  if ds.length = n && ds.all Text.isDigit then
    some (ds.foldl (fun acc d => acc * 10 + (d.toNat - 48)) 0, cs.drop n)
  else none

/-- Reads one fixed character. -/
def readMark (c : Char) : List Char → Option (List Char)
  | x :: rest => if x = c then some rest else none
  | [] => none

/-- Reads the fraction of a second, of which nine digits count. -/
def readFraction : List Char → Option (Nat × List Char)
  | '.' :: rest =>
    let ds := rest.takeWhile Text.isDigit
    if ds.isEmpty then none
    else
      let nine := (ds ++ List.replicate 9 '0').take 9
      some (nine.foldl (fun acc d => acc * 10 + (d.toNat - 48)) 0, rest.dropWhile Text.isDigit)
  | cs => some (0, cs)

/-- Reads the offset that ends an instant. -/
def readOffset : List Char → Option Int
  | ['Z'] | ['z'] => some 0
  | sign :: rest => do
    if sign != '+' && sign != '-' && sign != '−' then none
    let (hours, rest) ← readDigits 2 rest
    let rest ← readMark ':' rest
    let (minutes, rest) ← readDigits 2 rest
    if !rest.isEmpty || 59 < minutes || 23 < hours then none
    let o : Int := hours * 3600 + minutes * 60
    return if sign = '+' then o else -o
  | [] => none

/-- The instant that a text denotes: date, time of day and offset. -/
def parse? (text : String) : Option Instant := do
  let (year, cs) ← readDigits 4 text.toList
  let cs ← readMark '-' cs
  let (month, cs) ← readDigits 2 cs
  let cs ← readMark '-' cs
  let (day, cs) ← readDigits 2 cs
  let cs ← match cs with
    | c :: rest => if c == 'T' || c == 't' || c == ' ' then some rest else none
    | [] => none
  let (hour, cs) ← readDigits 2 cs
  let cs ← readMark ':' cs
  let (minute, cs) ← readDigits 2 cs
  let cs ← readMark ':' cs
  let (second, cs) ← readDigits 2 cs
  let (nanos, cs) ← readFraction cs
  let offset ← readOffset cs
  if month < 1 || 12 < month || day < 1 || daysInMonth year month < day then none
  if 23 < hour || 59 < minute || 60 < second then none
  let (second, nanos) := if second = 60 then (59, nanos + 1_000_000_000) else (second, nanos)
  let days := (⟨year, month, day⟩ : Date).toDays
  return ⟨days * 86400 + hour * 3600 + minute * 60 + second - offset, nanos, offset⟩

end Instant

end QualityGate.Time
