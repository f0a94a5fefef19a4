/-!
# Shortest decimals

A finite double stands for an interval of real numbers: those that round to it. `shortest` finds
the decimal with the fewest digits in that interval, and among those the one nearest to the double.
The search goes over one, two, … seventeen digits. On each grid only the two neighbours of the
double can qualify, because a point of the grid inside the interval that is not a neighbour has a
neighbour between itself and the double.

All comparisons are between natural numbers, so nothing is rounded on the way.
-/

namespace QualityGate.Decimal

/-- A positive double as `mantissa * 2 ^ exponent`. The flag tells a double whose lower neighbour is
only half as far away as its upper one. -/
structure Binary where
  mantissa : Nat
  exponent : Int
  closeBelow : Bool

/-- A decimal `digits * 10 ^ exponent`. -/
structure Scaled where
  digits : Nat
  exponent : Int
deriving DecidableEq

/-- The magnitude of the double with these bits, which must not be those of an infinity. -/
def Binary.ofBits (bits : UInt64) : Binary :=
  let field : Nat := bits.toNat % 0x10_0000_0000_0000
  let raised : Nat := bits.toNat / 0x10_0000_0000_0000 % 0x800
  if raised = 0 then ⟨field, -1074, false⟩
  else ⟨field + 0x10_0000_0000_0000, (raised : Int) - 1075, field == 0 && raised > 1⟩

/-- The power `10 ^ e` as a fraction. -/
def tenPower (e : Int) : Nat × Nat :=
  (Nat.pow 10 e.toNat, Nat.pow 10 (-e).toNat)

/-- The power `2 ^ e` as a fraction. -/
def twoPower (e : Int) : Nat × Nat :=
  (Nat.pow 2 e.toNat, Nat.pow 2 (-e).toNat)

/-- Whether `10 ^ e` is at most `mantissa * 2 ^ exponent`. -/
def Binary.atLeastTenPower (b : Binary) (e : Int) : Bool :=
  let (p, q) := tenPower e
  let (u, v) := twoPower b.exponent
  p * v ≤ b.mantissa * u * q

/-- The decimal exponent of the first digit: the greatest `e` with `10 ^ e` at most the double. -/
def Binary.leadingExponent (b : Binary) : Int :=
  let guess := ((b.mantissa.log2 : Int) + b.exponent) * 30103 / 100000
  if b.atLeastTenPower (guess + 1) then guess + 1
  else if b.atLeastTenPower guess then guess
  else guess - 1

/-- The best decimal with the given exponent that rounds to the double, if there is one.

With the double scaled to `4 * mantissa` quarter steps, the interval reaches two steps up, and two
steps or one down. Its ends belong to it when the mantissa is even. -/
def Binary.onGrid? (b : Binary) (exponent : Int) : Option Nat :=
  let (p, q) := tenPower exponent
  let (u, v) := twoPower (b.exponent - 2)
  let unit := p * v
  let scale := u * q
  let value := 4 * b.mantissa * scale
  let low := (4 * b.mantissa - (if b.closeBelow then 1 else 2)) * scale
  let high := (4 * b.mantissa + 2) * scale
  let inside (n : Nat) : Bool :=
    if b.mantissa % 2 = 0 then low ≤ n * unit && n * unit ≤ high
    else low < n * unit && n * unit < high
  let below := value / unit
  let above := below + 1
  match inside below && below != 0, inside above with
  | true, true =>
    let down := value - below * unit
    let up := above * unit - value
    if down < up || (down == up && below % 2 == 0) then some below else some above
  | true, false => some below
  | false, true => some above
  | false, false => none

/-- Moves the zeros at the end of the digits into the exponent. -/
def Scaled.strip (d : Scaled) : Nat → Scaled
  | 0 => d
  | fuel + 1 =>
    if d.digits ≠ 0 ∧ d.digits % 10 = 0 then Scaled.strip ⟨d.digits / 10, d.exponent + 1⟩ fuel
    else d

/-- Tries grids of `18 - left` digits and more, up to seventeen, for a double whose first digit
stands at `leading`. -/
def Binary.search (b : Binary) (leading : Int) : Nat → Scaled
  | 0 => ⟨b.mantissa, b.exponent⟩
  | left + 1 =>
    let exponent := leading - (16 - (left : Int))
    match b.onGrid? exponent with
    | some n => Scaled.strip ⟨n, exponent⟩ 20
    | none => b.search leading left

/-- The shortest decimal that rounds to the magnitude of a finite double other than zero. -/
def shortest (f : Float) : Scaled :=
  let b := Binary.ofBits f.toBits
  b.search b.leadingExponent 17

end QualityGate.Decimal
