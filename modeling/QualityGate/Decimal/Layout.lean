import QualityGate.Decimal.Shortest

/-!
# Layouts of doubles

How the digits of a double are written down. A `Layout` says which exponents are written with a
plain point and which with an exponent mark, whether a whole number keeps its `.0`, and how a
positive exponent is signed. The texts of reports, of diagnostics and of converted values are three
such layouts.
-/

namespace QualityGate.Decimal

/-- The choices a format makes for the text of a double. -/
structure Layout where
  /-- The decimal exponents of the first digit that are written with a plain point. -/
  plain : Int → Bool
  /-- Whether a whole number written with a plain point ends in `.0`. -/
  keepPoint : Bool
  /-- Whether a positive exponent is written with a plus sign. -/
  plusSign : Bool

/-- JSON texts write the point for exponents from -5 to 15. -/
def Layout.json : Layout where
  plain e := -5 ≤ e && e < 16
  keepPoint := true
  plusSign := true

/-- Diagnostics write the point for exponents from -4 to 15. -/
def Layout.diagnostic : Layout where
  plain e := -4 ≤ e && e < 16
  keepPoint := true
  plusSign := false

/-- A double converted to a text has no exponent and no superfluous point. -/
def Layout.converted : Layout where
  plain _ := true
  keepPoint := false
  plusSign := false

/-- The decimal digits of a natural number. -/
def digitsOf (n : Nat) : List Char := Nat.toDigits 10 n

/-- The digits with a plain point, the first of them standing at the decimal exponent `leading`. -/
def Layout.withPoint (l : Layout) (digits : List Char) (leading : Int) : List Char :=
  if leading < 0 then
    '0' :: '.' :: (List.replicate ((-leading).toNat - 1) '0' ++ digits)
  else
    let whole := leading.toNat + 1
    if digits.length ≤ whole then
      digits ++ List.replicate (whole - digits.length) '0'
        ++ (if l.keepPoint then ['.', '0'] else [])
    else
      digits.take whole ++ '.' :: digits.drop whole

/-- The digits with an exponent mark. -/
def Layout.withExponent (l : Layout) (digits : List Char) (leading : Int) : List Char :=
  let sign := if leading < 0 then ['-'] else if l.plusSign then ['+'] else []
  let fraction := match digits.drop 1 with
    | [] => []
    | rest => '.' :: rest
  digits.take 1 ++ fraction ++ 'e' :: (sign ++ digitsOf leading.natAbs)

/-- The text of a double. -/
def Layout.render (l : Layout) (f : Float) : String :=
  if f.isNaN then "NaN"
  else
    let sign := if f.toBits.toNat ≥ 0x8000_0000_0000_0000 then ['-'] else []
    let magnitude :=
      if f.isInf then ['i', 'n', 'f']
      else if f == 0.0 then l.withPoint ['0'] 0
      else
        let d := shortest f
        let digits := digitsOf d.digits
        let leading := d.exponent + (digits.length : Int) - 1
        if l.plain leading then l.withPoint digits leading else l.withExponent digits leading
    String.ofList (sign ++ magnitude)

end QualityGate.Decimal
