/-!
# Reading decimals

Two ways from decimal digits to a double. `nearest` rounds once, to the double nearest to the
decimal; it reads the numbers of expressions and of durations. `scaled` rounds the digits first and
then scales them by a power of ten, which rounds again; it reads the numbers of JSON texts, and
refuses those beyond the greatest double.
-/

namespace QualityGate.Decimal

/-- The double nearest to `digits * 10 ^ exponent`, infinite beyond the greatest double. -/
def nearest (digits : Nat) (exponent : Int) : Float :=
  if digits = 0 then 0.0
  else
    let leading := (digits.log2 : Int) * 30103 / 100000 + exponent
    if leading > 400 then 1.0 / 0.0
    else if leading < -400 then 0.0
    else if exponent < 0 then Float.ofScientific digits true exponent.natAbs
    else Float.ofScientific digits false exponent.natAbs

/-- Scales a double by a power of ten, in steps of at most 308. Every step rounds. -/
def scaleBy (f : Float) (exponent : Int) : Nat → Option Float
  | 0 => some f
  | fuel + 1 =>
    if exponent.natAbs ≤ 308 then
      if 0 ≤ exponent then
        let g := f * nearest 1 exponent
        if g.isInf then none else some g
      else some (f / nearest 1 (-exponent))
    else if f == 0.0 then some f
    else if 0 ≤ exponent then none
    else scaleBy (f / nearest 1 308) (exponent + 308) fuel

/-- The double that stands for `significand * 10 ^ exponent` when the significand is rounded before
it is scaled. There is none beyond the greatest double. -/
def scaled (significand : Nat) (exponent : Int) : Option Float :=
  scaleBy (nearest significand 0) exponent 4

/-- The significand of a run of digits that continues one already read: as many of the digits as
keep it below `2 ^ 64`. Also returns the digits left out. -/
def absorb (significand : Nat) : List Char → Nat × List Char
  | [] => (significand, [])
  | c :: cs =>
    let next := significand * 10 + (c.toNat - 48)
    if next < 0x1_0000_0000_0000_0000 then absorb next cs else (significand, c :: cs)

end QualityGate.Decimal
