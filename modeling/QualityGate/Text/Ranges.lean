import QualityGate.Text.Blank

/-!
# Sets of characters as ranges

Sets of characters given by ranges of code points, and the operations on such sets. A normal set has
its ranges in ascending order, with a gap between any two of them. Surrogates are no characters, so
`complement` leaves them out.

Large sets are written as lines of text: a code point, a first and a last one, or every second one
from a first to a last, as in `AA`, `41-5A` and `100-12E/2`.
-/

namespace QualityGate.Text

/-- Ranges of code points, both ends included. -/
abbrev Ranges := List (Nat × Nat)

/-- Whether one of the ranges holds the character. -/
def inRanges (ranges : Ranges) (c : Char) : Bool :=
  ranges.any fun r => r.1 ≤ c.toNat && c.toNat ≤ r.2

/-! ## Operations -/

/-- Joins ranges in ascending order that touch or overlap, given the one before them. -/
def coalesceAfter (low high : Nat) : Ranges → Ranges
  | [] => [(low, high)]
  | (a, b) :: rest =>
    if a ≤ high + 1 then coalesceAfter low (max high b) rest
    else (low, high) :: coalesceAfter a b rest

/-- Joins ranges in ascending order that touch or overlap. -/
def coalesce : Ranges → Ranges
  | [] => []
  | (a, b) :: rest => coalesceAfter a b rest

/-- The ranges in order and with gaps between them. -/
def normalize (ranges : Ranges) : Ranges :=
  coalesce (ranges.mergeSort fun r s => r.1 ≤ s.1)

/-- The gaps between normal ranges from a code point on. -/
def gapsFrom (next : Nat) : Ranges → Ranges
  | [] => if next ≤ 0x10FFFF then [(next, 0x10FFFF)] else []
  | (a, b) :: rest =>
    if next < a then (next, a - 1) :: gapsFrom (b + 1) rest else gapsFrom (b + 1) rest

/-- The characters outside the ranges. -/
def complement (ranges : Ranges) : Ranges :=
  gapsFrom 0 (normalize ((0xD800, 0xDFFF) :: ranges))

/-- The characters in both sets. -/
def intersection (left right : Ranges) : Ranges :=
  complement (complement left ++ complement right)

/-- The characters in the first set only. -/
def difference (left right : Ranges) : Ranges := complement (complement left ++ right)

/-! ## Written sets -/

/-- The words between blanks. -/
def splitWords (cs : List Char) : List (List Char) :=
  cs.foldr (fun c words => if c = ' ' then [] :: words else match words with
    | w :: ws => (c :: w) :: ws
    | [] => [[c]]) [[]]

/-- The value of hexadecimal digits. -/
def hexNumber (cs : List Char) : Nat :=
  cs.foldl (fun acc c => acc * 16 + (hexValue? c).getD 0) 0

/-- The ranges that a written one stands for. -/
def readRange (cs : List Char) : Ranges :=
  let low := hexNumber (cs.takeWhile (· != '-'))
  match cs.dropWhile (· != '-') with
  | [] => [(low, low)]
  | _ :: more =>
    let high := hexNumber (more.takeWhile (· != '/'))
    if more.contains '/' then
      (List.range ((high - low) / 2 + 1)).map fun k => (low + 2 * k, low + 2 * k)
    else [(low, high)]

/-- A set of characters with its names, written in lines. -/
structure Table where
  names : List String
  lines : List String

/-- The ranges of a written set. -/
def Table.ranges (t : Table) : Ranges :=
  t.lines.flatMap fun line => (splitWords line.toList).flatMap readRange

end QualityGate.Text
