/-!
# Texts from bytes

Reading bytes as UTF-8. Where the bytes are not UTF-8, each longest start of a character that breaks
off becomes one replacement character.
-/

namespace QualityGate.Text

/-- The bytes of a text. -/
def bytesOf (s : String) : List UInt8 := s.toUTF8.toList

/-- How a byte starts a character: the number of bytes that follow, the bits it gives, and the
bounds of the second byte. -/
def leadByte? (b : Nat) : Option (Nat × Nat × Nat × Nat) :=
  if b < 0x80 then some (0, b, 0x80, 0xBF)
  else if 0xC2 ≤ b ∧ b ≤ 0xDF then some (1, b - 0xC0, 0x80, 0xBF)
  else if b = 0xE0 then some (2, 0, 0xA0, 0xBF)
  else if b = 0xED then some (2, 0xD, 0x80, 0x9F)
  else if 0xE1 ≤ b ∧ b ≤ 0xEF then some (2, b - 0xE0, 0x80, 0xBF)
  else if b = 0xF0 then some (3, 0, 0x90, 0xBF)
  else if 0xF1 ≤ b ∧ b ≤ 0xF3 then some (3, b - 0xF0, 0x80, 0xBF)
  else if b = 0xF4 then some (3, 4, 0x80, 0x8F)
  else none

/-- Reads the bytes that follow a lead byte. Returns the code point, or nothing if it breaks off,
and the number of bytes that belong together. -/
def followBytes : Nat → Nat → Nat → Nat → Nat → List UInt8 → Option Nat × Nat
  | 0, acc, _, _, used, _ => (some acc, used)
  | n + 1, acc, low, high, used, b :: rest =>
    if low ≤ b.toNat ∧ b.toNat ≤ high then
      followBytes n (acc * 64 + b.toNat % 64) 0x80 0xBF (used + 1) rest
    else (none, used)
  | _ + 1, _, _, _, used, [] => (none, used)

/-- The characters of bytes. The fuel is at least the number of bytes. -/
def decodeBytes : Nat → List UInt8 → List Char
  | 0, _ => []
  | _, [] => []
  | fuel + 1, b :: rest =>
    match leadByte? b.toNat with
    | none => '\ufffd' :: decodeBytes fuel rest
    | some (n, bits, low, high) =>
      match followBytes n bits low high 0 rest with
      | (some v, used) => Char.ofNat v :: decodeBytes fuel (rest.drop used)
      | (none, used) => '\ufffd' :: decodeBytes fuel (rest.drop used)

/-- The text of bytes. -/
def ofBytes (bs : List UInt8) : String := String.ofList (decodeBytes bs.length bs)

end QualityGate.Text
