/-!
# Blanks and trimming

Characters of the Unicode property `White_Space`, and the cutting of a text at both ends. Names in
formulas and durations are read after such cutting, and a reference token ends before a blank.
-/

namespace QualityGate.Text

/-- Whether the character has the Unicode property `White_Space`. -/
def isBlank (c : Char) : Bool :=
  (9 ≤ c.toNat && c.toNat ≤ 13) || c.toNat == 0x20 || c.toNat == 0x85 || c.toNat == 0xA0
    || c.toNat == 0x1680 || (0x2000 ≤ c.toNat && c.toNat ≤ 0x200A) || c.toNat == 0x2028
    || c.toNat == 0x2029 || c.toNat == 0x202F || c.toNat == 0x205F || c.toNat == 0x3000

/-- The text without the characters at both ends that satisfy `drop`. -/
def trimBy (drop : Char → Bool) (cs : List Char) : List Char :=
  ((cs.dropWhile drop).reverse.dropWhile drop).reverse

/-- Whether the character is an ASCII digit. -/
def isDigit (c : Char) : Bool := '0' ≤ c && c ≤ '9'

/-- Whether the character is an ASCII letter. -/
def isLetter (c : Char) : Bool := ('a' ≤ c && c ≤ 'z') || ('A' ≤ c && c ≤ 'Z')

/-- Whether the character may start a plain name: an ASCII letter or an underscore. -/
def isNameStart (c : Char) : Bool := isLetter c || c == '_'

/-- Whether the character may continue a plain name: an ASCII letter, a digit or an underscore. -/
def isNameRest (c : Char) : Bool := isNameStart c || isDigit c

/-- The value of a hexadecimal digit. -/
def hexValue? (c : Char) : Option Nat :=
  if isDigit c then some (c.toNat - 48)
  else if 'a' ≤ c && c ≤ 'f' then some (c.toNat - 87)
  else if 'A' ≤ c && c ≤ 'F' then some (c.toNat - 55)
  else none

/-- The number that a list of digits denotes in the given base, each digit read by `value?`. -/
def digitsValue? (base : Nat) (value? : Char → Option Nat) (cs : List Char) : Option Nat :=
  cs.foldl (fun acc c => do return (← acc) * base + (← value? c)) (some 0)

/-- The character with the given code point, unless it is a surrogate or out of range. -/
def charOf? (n : Nat) : Option Char :=
  if n < 0xD800 || (0xDFFF < n && n < 0x110000) then some (Char.ofNat n) else none

/-- Reads exactly `n` hexadecimal digits. -/
def takeHex (n : Nat) (cs : List Char) : Option (Nat × List Char) :=
  if (cs.take n).length = n then
    (digitsValue? 16 hexValue? (cs.take n)).map fun v => (v, cs.drop n)
  else none

end QualityGate.Text
