import QualityGate.Pattern.Meaning

/-!
# The size of patterns

A pattern is searched for by an automaton that reads bytes, forwards to find where a match ends and
backwards to find where it starts. `Pattern.footprint` is the memory that the states of such an
automaton take. Repetitions with counts repeat the states of their part, so a short pattern may have
a large automaton; one that is too large is refused.

A class is read as the sequences of byte ranges that encode its characters. Forwards, sequences with
the same ends share their states; backwards, those with the same starts do.
-/

namespace QualityGate

open Text (Ranges)

/-! ## Classes as ranges -/

/-- The characters that are folded, with their folded forms. -/
def foldedPairs : List (Nat × Nat) :=
  Unicode.foldings.flatMap fun (first, last, step, distance) =>
    (List.range ((last - first) / step + 1)).map fun k =>
      (first + k * step, ((first + k * step : Nat) + distance : Int).toNat)

/-- Whether the ranges hold a code point. -/
def holdsCode (ranges : Ranges) (n : Nat) : Bool := ranges.any fun r => r.1 ≤ n && n ≤ r.2

/-- The ranges with all characters that differ from theirs in nothing but case. -/
def foldRanges (ranges : Ranges) : Ranges :=
  let met := foldedPairs.filter fun (n, folded) => holdsCode ranges n || holdsCode ranges folded
  let targets := met.map (·.2)
  let sources := foldedPairs.filter fun (_, folded) => targets.contains folded
  Text.normalize (ranges ++ targets.map (fun n => (n, n)) ++ sources.map fun (n, _) => (n, n))

/-- The ranges with both cases of each of their ASCII letters. -/
def foldAsciiRanges (ranges : Ranges) : Ranges :=
  let letters := (List.range 26).filter fun k =>
    holdsCode ranges (0x41 + k) || holdsCode ranges (0x61 + k)
  Text.normalize (ranges ++ letters.flatMap fun k => [(0x41 + k, 0x41 + k), (0x61 + k, 0x61 + k)])

/-- The set as ranges in ascending order. -/
def CharClass.toRanges : CharClass → Ranges
  | empty => []
  | any => Text.complement []
  | range low high => Text.complement (Text.complement [(low.toNat, high.toNat)])
  | ranges set => Text.normalize set
  | digit => (0x30, 0x39) :: Text.digitRanges
  | blank =>
    [(0x9, 0xD), (0x20, 0x20), (0x85, 0x85), (0xA0, 0xA0), (0x1680, 0x1680), (0x2000, 0x200A),
      (0x2028, 0x2029), (0x202F, 0x202F), (0x205F, 0x205F), (0x3000, 0x3000)]
  | word => (0x30, 0x39) :: (0x41, 0x5A) :: (0x5F, 0x5F) :: (0x61, 0x7A) :: Text.wordRanges
  | complement c => Text.complement c.toRanges
  | union a b => Text.normalize (a.toRanges ++ b.toRanges)
  | intersection a b => Text.intersection a.toRanges b.toRanges
  | caseless c => foldRanges c.toRanges
  | asciiCaseless c => foldAsciiRanges c.toRanges

namespace Pattern

/-! ## Sequences of bytes -/

/-- A range of bytes, both ends included. -/
abbrev ByteRange := Nat × Nat

/-- The bytes that encode a code point, in the given number. -/
def encode (length n : Nat) : List Nat :=
  match length with
  | 1 => [n]
  | 2 => [0xC0 + n / 64, 0x80 + n % 64]
  | 3 => [0xE0 + n / 4096, 0x80 + n / 64 % 64, 0x80 + n % 64]
  | _ => [0xF0 + n / 262144, 0x80 + n / 4096 % 64, 0x80 + n / 64 % 64, 0x80 + n % 64]

/-- The number of bytes that encode a code point. -/
def encodedLength (n : Nat) : Nat :=
  if n < 0x80 then 1 else if n < 0x800 then 2 else if n < 0x10000 then 3 else 4

/-- The last code point before which a range has to be cut, so that codes before and after the cut
do not mix, if there is one. -/
def cutPoint? (low high : Nat) : Option Nat :=
  let lengths := [0x7F, 0x7FF, 0xFFFF].find? fun m => low ≤ m && m < high
  let blocks := [64, 4096, 262144].findSome? fun m =>
    if low / m = high / m then none
    else if low % m ≠ 0 then some (low / m * m + m - 1)
    else if high % m ≠ m - 1 then some (high / m * m - 1)
    else none
  lengths.or (if high < 0x80 then none else blocks)

/-- The sequences of byte ranges that encode the characters of a range, in ascending order. -/
def sequencesOf : Nat → Nat → Nat → List (List ByteRange)
  | 0, _, _ => []
  | fuel + 1, low, high =>
    match cutPoint? low high with
    | some m => sequencesOf fuel low m ++ sequencesOf fuel (m + 1) high
    | none =>
      let length := encodedLength low
      [(encode length low).zip (encode length high)]

/-- The sequences of byte ranges that encode the characters of a set. A range is cut less than
twenty times. -/
def sequences (ranges : Ranges) : List (List ByteRange) :=
  ranges.flatMap fun (low, high) => sequencesOf 20 low high

/-! ## States of classes -/

/-- The states of an automaton that have been made so far, by the transitions out of them. -/
abbrev States := List (List (ByteRange × Nat))

/-- The number of a state with the given transitions, which is made if there is none. -/
def States.find (states : States) (transitions : List (ByteRange × Nat)) : Nat × States :=
  match states.findIdx? (· == transitions) with
  | some i => (states.length - i, states)
  | none => (states.length + 1, transitions :: states)

/-- Sequences with the same first range together, without it. -/
def groupByFirst : List (List ByteRange) → List (ByteRange × List (List ByteRange))
  | [] => []
  | [] :: rest => groupByFirst rest
  | (b :: bs) :: rest =>
    match groupByFirst rest with
    | (c, group) :: groups =>
      if c = b then (c, bs :: group) :: groups else (b, [bs]) :: (c, group) :: groups
    | [] => [(b, [bs])]

/-- The state from which the given sequences lead to the end, and the states then made. The end has
the number zero; `depth` is the length of the longest sequence. -/
def compile : Nat → States → List (List ByteRange) → Nat × States
  | 0, states, _ => (0, states)
  | depth + 1, states, sequences =>
    if sequences.all List.isEmpty then (0, states)
    else
      let (transitions, states) := (groupByFirst sequences).foldl
        (fun (acc : List (ByteRange × Nat) × States) group =>
          let (target, states) := compile depth acc.2 group.2
          ((group.1, target) :: acc.1, states)) ([], states)
      states.find transitions

/-- How long a start two sequences have in common. -/
def commonLength : List ByteRange → List ByteRange → Nat
  | a :: as, b :: bs => if a = b then commonLength as bs + 1 else 0
  | _, _ => 0

/-- The number of different starts of the sequences, after a first one. -/
def countStarts (before : List ByteRange) : List (List ByteRange) → Nat
  | [] => 0
  | s :: rest => s.length - commonLength before s + countStarts s rest

/-- The memory of a state, of a transition, and of a branch. -/
def stateSize : Nat := 32

/-- The memory of one transition of a state. -/
def transitionSize : Nat := 8

/-- The memory of one branch of a state. -/
def branchSize : Nat := 4

/-- The memory of the states of a class. -/
def classFootprint (backward : Bool) (ranges : Ranges) : Nat :=
  let ascii := 2 * stateSize + transitionSize * ranges.length
  match ranges.getLast? with
  | none => ascii
  | some (low, high) =>
    if ranges.length = 1 ∧ low = high then stateSize * encodedLength low
    else if high < 0x80 then ascii
    else
      let all := sequences ranges
      if backward then
        2 * stateSize + branchSize * all.length + stateSize * countStarts [] all
      else
        let (_, states) := compile 5 [] all
        stateSize + states.foldr (fun s n => stateSize + transitionSize * s.length + n) 0

/-! ## States of patterns -/

/-- Whether every match of the pattern takes up characters. -/
def consumes : Pattern → Bool
  | nothing | anchor _ => false
  | one _ => true
  | sequence p q => p.consumes || q.consumes
  | either p q => p.consumes && q.consumes
  | repeated p least _ => least != 0 && p.consumes
  | captured p => p.consumes

/-- What an alternative adds to the memory of its branching. Those of a branching inside a branching
are alternatives of the outer one. -/
def addedFootprint (p : Pattern) (footprint : Nat) : Nat :=
  match p with
  | either _ _ => footprint - 2 * stateSize
  | _ => footprint + branchSize

/-- The memory of the states of a pattern. -/
def footprint (backward : Bool) : Pattern → Nat
  | nothing | anchor _ => stateSize
  | one c => classFootprint backward c.toRanges
  | sequence p q => p.footprint backward + q.footprint backward
  | either p q =>
    2 * stateSize + addedFootprint p (p.footprint backward)
      + addedFootprint q (q.footprint backward)
  | repeated p least most =>
    let part := p.footprint backward
    let branching := stateSize + 2 * branchSize
    match least, most with
    | 0, some 1 => branching + stateSize + part
    | 0, none => if p.consumes then branching + part else 2 * branching + stateSize + part
    | n, none => n * part + branching
    | n, some m =>
      if n = m then n * part
      else max (n * part) stateSize + stateSize + (m - n) * (branching + part)
  | captured p => p.footprint backward + if backward then 0 else 2 * stateSize

/-- The memory that the automaton of a pattern may take: ten mebibytes. -/
def footprintLimit : Nat := 10 * (1 <<< 20)

/-- The memory of the states around those of a pattern: the search for a start, and the match. -/
def frameFootprint : Nat := 208

/-- Whether the automata of the pattern are not too large. -/
def fits (p : Pattern) : Bool :=
  p.footprint false + frameFootprint ≤ footprintLimit
    && p.footprint true + frameFootprint ≤ footprintLimit

/-- The pattern that a text denotes. -/
def parse? (text : List Char) : Option Pattern := do
  let part ← Part.parse? text
  let (p, _) ← part.meaning {}
  if p.fits then return p else none

end Pattern

end QualityGate
