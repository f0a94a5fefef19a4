import Mathlib.Logic.Relation
import Mathlib.Order.Bounds.Basic
import QualityGate.Proofs.Condition.Segment
import QualityGate.Proofs.Text.Offset

/-!
# Lengths of bracket segments and tokens

A bracket segment ends at the first place at which all brackets are closed (`ClosesAt`,
`bracketLength?_eq_some_iff`), so a text in which a string is opened before that place and never
closed has none (`bracketLength?_of_unclosed`). Until its end, the reader always has a bracket open:
it counts those that are opened without those that are closed, as far as it looks
(`BracketState.depth_run`).

A token is read from place to place (`nextPlace?`). Every segment has a length, so the reader comes
to an end in every text (`exists_tokenEnd`). In a token, this is the place behind the segments that
`splitToken` cuts off (`reaches_splitToken`). All of this together is `brackets_and_tokens_end`.
-/

namespace QualityGate.Condition

open Text (byteLength splitAt?)

/-! ## Places at which all brackets are closed -/

/-- Whether an offset of a text lies between characters, behind a start of the text that is not
empty and in which every bracket is matched. -/
def ClosesAt (cs : List Char) (n : Nat) : Prop :=
  ∃ front back, splitAt? n cs = some (front, back) ∧ front ≠ [] ∧ Balanced front

section Closing

variable {cs a b front back : List Char} {n m : Nat}

/-- A balanced text that starts with a bracket starts with a bracket segment. -/
theorem exists_bracket_of_balanced (balanced : Balanced ('[' :: cs)) :
    ∃ inside rest, Balanced inside ∧ '[' :: cs = '[' :: inside ++ [']'] ++ rest := by
  cases balanced with
  | @bracket inside rest within _ => exact ⟨inside, rest, within, by simp⟩
  | string isQuote => exact absurd isQuote (by decide)
  | other plain => exact absurd plain (by decide)

/-- Where all brackets of a text that starts with one are closed, there its bracket segment has
ended. -/
theorem exists_splitBracket?_of_closesAt (opens : cs.head? = some '[') (closes : ClosesAt cs n) :
    ∃ a b, splitBracket? cs = some (a, b) ∧ ClosesAt cs (byteLength a) ∧ byteLength a ≤ n := by
  obtain ⟨front, back, cut, nonempty, balanced⟩ := closes
  obtain ⟨rfl, rfl⟩ := Text.splitAt?_eq_some_iff.mp cut
  cases front with
  | nil => exact absurd rfl nonempty
  | cons c front =>
      obtain rfl : c = '[' := Option.some.inj opens
      obtain ⟨inside, rest, within, parts⟩ := exists_bracket_of_balanced balanced
      rw [parts, List.append_assoc]
      refine ⟨_, rest ++ back, splitBracket?_eq_some_iff.mpr ⟨inside, within, rfl, rfl⟩, ?_, ?_⟩
      · exact ⟨_, _, Text.splitAt?_byteLength _ _, by simp, .bracket within .nil⟩
      · rw [Text.byteLength_append ('[' :: inside ++ [']'])]
        exact Nat.le_add_right _ _

theorem head_of_splitBracket? (cut : splitBracket? cs = some (a, b)) : cs.head? = some '[' := by
  obtain ⟨inside, -, rfl, rfl⟩ := splitBracket?_eq_some_iff.mp cut
  rfl

/-- The bracket segment of a text ends at the first place at which all brackets are closed. -/
theorem isLeast_of_splitBracket? (cut : splitBracket? cs = some (a, b)) :
    IsLeast {n | ClosesAt cs n} (byteLength a) := by
  constructor
  · obtain ⟨inside, within, rfl, rfl⟩ := splitBracket?_eq_some_iff.mp cut
    exact ⟨_, _, Text.splitAt?_byteLength _ _, by simp, .bracket within .nil⟩
  · intro n closes
    obtain ⟨a', b', cut', -, within⟩ :=
      exists_splitBracket?_of_closesAt (head_of_splitBracket? cut) closes
    cases cut.symm.trans cut'
    exact within

theorem bracketLength?_eq_some_iff :
    bracketLength? cs = some n ↔ cs.head? = some '[' ∧ IsLeast {n | ClosesAt cs n} n := by
  constructor
  · intro length
    obtain ⟨⟨a, b⟩, cut, rfl⟩ := Option.map_eq_some_iff.mp length
    exact ⟨head_of_splitBracket? cut, isLeast_of_splitBracket? cut⟩
  · rintro ⟨opens, least⟩
    obtain ⟨a, b, cut, -⟩ := exists_splitBracket?_of_closesAt opens least.1
    rw [bracketLength?, cut, Option.map_some]
    exact congrArg some ((isLeast_of_splitBracket? cut).unique least)

theorem bracketLength?_eq_none_iff :
    bracketLength? cs = none ↔ (cs.head? = some '[' → ∀ n, ¬ ClosesAt cs n) := by
  rw [bracketLength?, Option.map_eq_none_iff]
  constructor
  · intro fails opens n closes
    obtain ⟨a, b, cut, -⟩ := exists_splitBracket?_of_closesAt opens closes
    exact Option.some_ne_none _ (cut.symm.trans fails)
  · intro never
    cases cut : splitBracket? cs with
    | none => rfl
    | some parts =>
        exact absurd (isLeast_of_splitBracket? cut).1 (never (head_of_splitBracket? cut) _)

end Closing

/-! ## Strings that are never closed -/

/-- Whether no string is open at the end of a text. -/
inductive OutsideStrings : List Char → Prop
  | nil : OutsideStrings []
  | string {quote : Char} {string rest : List Char} :
    quote = '\'' ∨ quote = '"' → StringRest quote string → OutsideStrings rest →
    OutsideStrings (quote :: string ++ rest)
  | other {c : Char} {rest : List Char} :
    c ∉ ['\'', '"'] → OutsideStrings rest → OutsideStrings (c :: rest)

section Strings

variable {cs ds string string' rest rest' : List Char} {quote : Char} {n : Nat}

theorem StringRest.quote_mem (text : StringRest quote string) : quote ∈ string := by
  induction text with
  | close => exact List.mem_singleton_self quote
  | escape _ ih => exact List.mem_cons_of_mem _ (List.mem_cons_of_mem _ ih)
  | other _ _ _ ih => exact List.mem_cons_of_mem _ ih

theorem OutsideStrings.append (first : OutsideStrings cs) (second : OutsideStrings ds) :
    OutsideStrings (cs ++ ds) := by
  induction first with
  | nil => exact second
  | @string quote string rest isQuote text _ ih =>
      rw [List.append_assoc]
      exact .string isQuote text ih
  | other plain _ ih => exact .other plain ih

theorem Balanced.outsideStrings (balanced : Balanced cs) : OutsideStrings cs := by
  induction balanced with
  | nil => exact .nil
  | bracket _ _ inside rest =>
      exact .append (.other (by decide) inside) (.other (by decide) rest)
  | string isQuote text _ ih => exact .string isQuote text ih
  | other plain _ ih =>
      refine .other (fun isQuote => plain ?_) ih
      exact List.mem_append_left ['[', ']'] isQuote

/-- Of a text, at most one start is the rest of a string. -/
theorem StringRest.eq_of_append (text : StringRest quote string) (text' : StringRest quote string')
    (plain : quote ≠ '\\') (same : string ++ rest = string' ++ rest') : rest = rest' := by
  induction text generalizing string' with
  | close =>
      cases text' with
      | close => exact (List.cons.inj same).2
      | escape => exact absurd (List.cons.inj same).1 plain
      | other _ noQuote => exact absurd (List.cons.inj same).1.symm noQuote
  | escape _ ih =>
      cases text' with
      | close => exact absurd (List.cons.inj same).1.symm plain
      | escape more => exact ih more (List.cons.inj (List.cons.inj same).2).2
      | other noBackslash => exact absurd (List.cons.inj same).1.symm noBackslash
  | other noBackslash noQuote _ ih =>
      cases text' with
      | close => exact absurd (List.cons.inj same).1 noQuote
      | escape => exact absurd (List.cons.inj same).1 noBackslash
      | other _ _ more => exact ih more (List.cons.inj same).2

/-- A quote outside of strings opens one, which is closed if the text ends outside of strings. -/
theorem OutsideStrings.exists_string (isQuote : quote = '\'' ∨ quote = '"')
    (front : OutsideStrings cs) (whole : OutsideStrings (cs ++ quote :: ds)) :
    ∃ string rest, StringRest quote string ∧ ds = string ++ rest := by
  induction front with
  | nil =>
      cases whole with
      | @string _ string rest _ text _ => exact ⟨string, rest, text, rfl⟩
      | other plain => exact absurd isQuote (by simpa using plain)
  | @string first string rest isQuote' text _ ih =>
      have plain : first ≠ '\\' := by rcases isQuote' with rfl | rfl <;> decide
      rw [List.append_assoc, List.cons_append] at whole
      generalize split : string ++ (rest ++ quote :: ds) = more at whole
      cases whole with
      | @string _ string' rest' _ text' behind =>
          rw [← text.eq_of_append text' plain split] at behind
          exact ih behind
      | other noQuote => exact absurd isQuote' (by simpa using noQuote)
  | @other c rest plain _ ih =>
      rw [List.cons_append] at whole
      generalize rest ++ quote :: ds = more at whole ih
      cases whole with
      | string isQuote' => exact absurd isQuote' (by simpa using plain)
      | other _ behind => exact ih behind

/-- There is no bracket segment if a string is opened before all brackets are closed, and is never
closed itself. -/
theorem bracketLength?_of_unclosed (front : OutsideStrings cs) (unmatched : ∀ n, ¬ ClosesAt cs n)
    (isQuote : quote = '\'' ∨ quote = '"')
    (unclosed : ∀ string rest, ds = string ++ rest → ¬ StringRest quote string) :
    bracketLength? (cs ++ quote :: ds) = none := by
  rw [Option.eq_none_iff_forall_ne_some]
  intro n length
  obtain ⟨a, b, cut, nonempty, balanced⟩ := (bracketLength?_eq_some_iff.mp length).2.1
  obtain ⟨parts, rfl⟩ := Text.splitAt?_eq_some_iff.mp cut
  have notBefore (more : List Char) : cs ≠ a ++ more := fun before =>
    unmatched _ ⟨a, more, before ▸ Text.splitAt?_byteLength a more, nonempty, balanced⟩
  rcases List.append_eq_append_iff.mp parts with ⟨more, rfl, behind⟩ | ⟨more, before, -⟩
  · cases more with
    | nil => exact notBefore [] (by simp)
    | cons c more =>
        obtain ⟨rfl, rfl⟩ := List.cons.inj behind
        obtain ⟨string, rest, text, rfl⟩ := front.exists_string isQuote balanced.outsideStrings
        exact unclosed string (rest ++ b) (List.append_assoc string rest b) text
  · exact notBefore more before

end Strings

/-! ## Open brackets -/

namespace BracketState

/-- The number of open brackets. -/
def depth : BracketState → Nat
  | code depth | quoted depth _ | escaped depth _ => depth

/-- What a character adds to the number of open brackets, where it may fall below zero. -/
def change : BracketState → Char → Int
  | code _, c => if c = '[' then 1 else if c = ']' then -1 else 0
  | quoted _ _, _ | escaped _ _, _ => 0

/-- What a text adds to the number of open brackets: one for each bracket that is opened outside of
strings, and minus one for each that is closed. -/
def balance : BracketState → List Char → Int
  | _, [] => 0
  | s, c :: cs => s.change c + (s.step c).balance cs

/-- The state after a text. -/
def run (s : BracketState) (cs : List Char) : BracketState := cs.foldl step s

/-- The part of a text at which a reader looks: up to the end of the bracket segment, or all of it
if there is no end. -/
def lookedAt (s : BracketState) (cs : List Char) : List Char :=
  ((splitClosed? s cs).map (·.1)).getD cs

variable {s : BracketState} {c : Char} {cs p : List Char}

theorem depth_step (opened : 1 ≤ s.depth) : ((s.step c).depth : Int) = s.depth + s.change c := by
  cases s with
  | code depth =>
      have opened : 1 ≤ depth := opened
      unfold step change BracketState.depth
      dsimp only
      split_ifs <;> simp_all
      omega
  | quoted depth quote =>
      unfold step change BracketState.depth
      dsimp only
      split_ifs <;> simp
  | escaped depth quote => simp [step, change, BracketState.depth]

/-- A reader that is not at its end has a bracket open. -/
theorem depth_step_pos (opened : 1 ≤ s.depth) (goesOn : s.step c ≠ code 0) :
    1 ≤ (s.step c).depth := by
  cases s with
  | code depth =>
      have opened : 1 ≤ depth := opened
      unfold step at goesOn ⊢
      dsimp only at goesOn ⊢
      split_ifs at goesOn ⊢ <;> simp_all [BracketState.depth]
      omega
  | quoted depth quote =>
      unfold step
      dsimp only
      split_ifs <;> exact opened
  | escaped depth quote => exact opened

/-- A reader looks at the first character, and behind it if it is not at its end there. -/
theorem lookedAt_cons :
    s.lookedAt (c :: cs) = c :: if s.step c = code 0 then [] else (s.step c).lookedAt cs := by
  unfold lookedAt
  rw [splitClosed?]
  split
  case isTrue => rfl
  case isFalse => cases splitClosed? (s.step c) cs <;> rfl

/-- As far as a reader looks, it counts the brackets that are opened without those that are
closed. -/
theorem depth_run (opened : 1 ≤ s.depth) (looked : p <+: s.lookedAt cs) :
    ((s.run p).depth : Int) = s.depth + s.balance p := by
  induction p generalizing s cs with
  | nil => simp [run, balance]
  | cons c p ih =>
      cases cs with
      | nil => simp [lookedAt, splitClosed?] at looked
      | cons d cs =>
          rw [lookedAt_cons] at looked
          obtain ⟨rfl, behind⟩ := List.cons_prefix_cons.mp looked
          have first := depth_step (c := c) opened
          split at behind
          case isTrue ends =>
              obtain rfl := List.prefix_nil.mp behind
              simpa [run, balance] using first
          case isFalse goesOn =>
              have rest := ih (depth_step_pos opened goesOn) behind
              rw [run, List.foldl_cons, ← run, rest, first, balance, Int.add_assoc]

/-- The count starts at zero, before the first bracket, and never falls below it. -/
theorem depth_run_of_bracket (looked : p <+: '[' :: (code 1).lookedAt cs) :
    0 ≤ (code 0).balance p ∧ (((code 0).run p).depth : Int) = (code 0).balance p := by
  have counts : (((code 0).run p).depth : Int) = (code 0).balance p := by
    cases p with
    | nil => rfl
    | cons c p =>
        obtain ⟨rfl, behind⟩ := List.cons_prefix_cons.mp looked
        exact depth_run (s := code 1) (Nat.le_refl 1) behind
  exact ⟨counts ▸ Int.natCast_nonneg _, counts⟩

end BracketState

/-! ## Places in tokens -/

/-- The place behind the segment at a place of a text. -/
def nextPlace? (cs : List Char) (place : Nat) : Option Nat := do
  let (_, back) ← splitAt? place cs
  let (segment, _) ← splitSegment? back
  return place + byteLength segment

/-- Whether the reader of a token comes from a place of a text to another one. -/
def Reaches (cs : List Char) : Nat → Nat → Prop :=
  Relation.ReflTransGen fun place next => nextPlace? cs place = some next

section Places

variable {cs front back : List Char} {place next last : Nat}

theorem nextPlace?_eq_some_iff :
    nextPlace? cs place = some next ↔
      ∃ front segment rest, cs = front ++ segment ++ rest ∧ byteLength front = place ∧
        splitSegment? (segment ++ rest) = some (segment, rest) ∧
        next = byteLength (front ++ segment) := by
  constructor
  · intro step
    obtain ⟨⟨front, back⟩, cut, behind⟩ := Option.bind_eq_some_iff.mp step
    obtain ⟨⟨segment, rest⟩, splits, result⟩ := Option.bind_eq_some_iff.mp behind
    obtain ⟨rfl, rfl⟩ := Text.splitAt?_eq_some_iff.mp cut
    have parts := append_of_splitSegment? splits
    refine ⟨front, segment, rest, ?_, rfl, parts ▸ splits, ?_⟩
    · rw [List.append_assoc, parts]
    · rw [Text.byteLength_append]
      exact (Option.some.inj result).symm
  · rintro ⟨front, segment, rest, rfl, rfl, splits, rfl⟩
    rw [nextPlace?, List.append_assoc, Text.splitAt?_byteLength, Option.bind_eq_bind,
      Option.bind_some]
    dsimp only
    rw [splits, Text.byteLength_append]
    rfl

/-- Every segment has a length, and ends within the text. -/
theorem lt_of_nextPlace? (step : nextPlace? cs place = some next) :
    place < next ∧ next ≤ byteLength cs := by
  obtain ⟨front, segment, rest, rfl, rfl, splits, rfl⟩ := nextPlace?_eq_some_iff.mp step
  obtain ⟨c, more, rfl⟩ := List.exists_cons_of_ne_nil (isSegment_of_splitSegment? splits).ne_nil
  have positive := c.utf8Size_pos
  simp only [Text.byteLength_append, Text.byteLength_cons]
  omega

/-- From every place within a text the reader comes to an end within it. -/
theorem exists_last_of_le (within : place ≤ byteLength cs) :
    ∃ last, Reaches cs place last ∧ nextPlace? cs last = none ∧ place ≤ last ∧
      last ≤ byteLength cs := by
  induction left : byteLength cs - place using Nat.strong_induction_on generalizing place with
  | _ left ih =>
      cases step : nextPlace? cs place with
      | none => exact ⟨place, .refl, step, Nat.le_refl _, within⟩
      | some next =>
          obtain ⟨forward, within'⟩ := lt_of_nextPlace? step
          obtain ⟨last, reaches, ends, behind, inside⟩ := ih _ (by omega) within' rfl
          exact ⟨last, .head step reaches, ends, by omega, inside⟩

/-- Wherever the reader comes, it goes on to the same end. -/
theorem Reaches.goesOn (reaches : Reaches cs place last) (ends : nextPlace? cs last = none)
    (reaches' : Reaches cs place next) : Reaches cs next last := by
  have unique : Relator.RightUnique fun place next => nextPlace? cs place = some next :=
    fun _ _ _ step step' => Option.some.inj (step.symm.trans step')
  rcases Relation.ReflTransGen.total_of_right_unique unique reaches reaches' with behind | before
  · rw [(Relation.reflTransGen_iff_eq fun _ step => by simp [ends] at step).mp behind]
    exact .refl
  · exact before

/-- The reader of a token starts behind the mark and comes to one end in every text, behind the mark
and within the text. In the empty text it stops at once. -/
theorem exists_tokenEnd (cs : List Char) :
    ∃ last, Reaches cs 1 last ∧ nextPlace? cs last = none ∧ 1 ≤ last ∧
      (cs ≠ [] → last ≤ byteLength cs) ∧
      ∀ place, Reaches cs 1 place → Reaches cs place last := by
  cases cs with
  | nil =>
      have stops : nextPlace? [] 1 = none := rfl
      exact ⟨1, .refl, stops, Nat.le_refl 1, fun nonempty => absurd rfl nonempty,
        fun _ => Reaches.goesOn .refl stops⟩
  | cons c cs =>
      have positive : 1 ≤ byteLength (c :: cs) := by
        have := c.utf8Size_pos
        rw [Text.byteLength_cons]
        omega
      obtain ⟨last, reaches, ends, behind, within⟩ := exists_last_of_le positive
      exact ⟨last, reaches, ends, behind, fun _ => within, fun _ => reaches.goesOn ends⟩

/-- The reader goes behind the segments that are cut off one after the other. -/
theorem reaches_splitSegments (bound : Nat) (front cs : List Char) :
    Reaches (front ++ cs) (byteLength front)
      (byteLength (front ++ (splitSegments bound cs).1)) := by
  induction bound generalizing front cs with
  | zero => rw [splitSegments, List.append_nil]; exact .refl
  | succ bound ih =>
      unfold splitSegments
      split
      case h_1 segment rest splits =>
          obtain rfl := append_of_splitSegment? splits
          have behind := ih (front ++ segment) rest
          rw [List.append_assoc, List.append_assoc] at behind
          exact .head (nextPlace?_eq_some_iff.mpr
            ⟨front, segment, rest, by rw [List.append_assoc], rfl, splits, rfl⟩) behind
      case h_2 => rw [List.append_nil]; exact .refl

/-- Behind as many segments as the text has characters there is no other one. -/
theorem splitSegment?_splitSegments (bound : Nat) (enough : cs.length ≤ bound) :
    splitSegment? (splitSegments bound cs).2 = none := by
  induction bound generalizing cs with
  | zero =>
      rw [List.length_eq_zero_iff.mp (Nat.le_zero.mp enough)]
      rfl
  | succ bound ih =>
      unfold splitSegments
      split
      case h_1 segment rest splits =>
          obtain rfl := append_of_splitSegment? splits
          have positive :=
            List.length_pos_iff.mpr (isSegment_of_splitSegment? splits).ne_nil
          rw [List.length_append] at enough
          exact ih (by omega)
      case h_2 none => exact none

/-- The reader of a token comes to its end behind the segments that are cut off from the text
behind the mark. -/
theorem reaches_splitToken (cs : List Char) :
    Reaches ('$' :: cs) 1 (byteLength ('$' :: (splitToken cs).1)) ∧
      nextPlace? ('$' :: cs) (byteLength ('$' :: (splitToken cs).1)) = none := by
  refine ⟨reaches_splitSegments cs.length ['$'] cs, ?_⟩
  have parts : '$' :: cs = '$' :: (splitToken cs).1 ++ (splitToken cs).2 := by
    rw [List.cons_append, append_splitToken]
  have cut := Text.splitAt?_byteLength ('$' :: (splitToken cs).1) (splitToken cs).2
  rw [← parts] at cut
  rw [nextPlace?, cut, Option.bind_eq_bind, Option.bind_some]
  dsimp only
  rw [splitToken, splitSegment?_splitSegments _ (Nat.le_refl _)]
  rfl

end Places

/-! ## Brackets and tokens -/

/-- **Brackets end where they are closed, and tokens end in every text.** A bracket segment ends at
the first place at which all brackets are closed. There is none if there is no such place, and so if
a string is opened before it and never closed. As far as the reader looks, its count of open
brackets is that of the opened ones without the closed ones, so it never falls below zero.

The reader of a token comes to one end in every text, behind the first byte and within the text. In
a token, it is the place behind the segments that `splitToken` cuts off. -/
theorem brackets_and_tokens_end :
    (∀ cs n, bracketLength? cs = some n ↔
      cs.head? = some '[' ∧ IsLeast {n | ClosesAt cs n} n) ∧
    (∀ cs, bracketLength? cs = none ↔ (cs.head? = some '[' → ∀ n, ¬ ClosesAt cs n)) ∧
    (∀ front quote back, OutsideStrings front → (∀ n, ¬ ClosesAt front n) →
      quote = '\'' ∨ quote = '"' →
      (∀ string rest, back = string ++ rest → ¬ StringRest quote string) →
      bracketLength? (front ++ quote :: back) = none) ∧
    (∀ cs p, p <+: '[' :: (BracketState.code 1).lookedAt cs →
      0 ≤ (BracketState.code 0).balance p ∧
      (((BracketState.code 0).run p).depth : Int) = (BracketState.code 0).balance p) ∧
    (∀ cs, ∃ last, Reaches cs 1 last ∧ nextPlace? cs last = none ∧ 1 ≤ last ∧
      (cs ≠ [] → last ≤ byteLength cs) ∧
      ∀ place, Reaches cs 1 place → Reaches cs place last) ∧
    (∀ cs, Reaches ('$' :: cs) 1 (byteLength ('$' :: (splitToken cs).1)) ∧
      nextPlace? ('$' :: cs) (byteLength ('$' :: (splitToken cs).1)) = none) :=
  ⟨fun _ _ => bracketLength?_eq_some_iff, fun _ => bracketLength?_eq_none_iff,
    fun _ _ _ front unmatched => bracketLength?_of_unclosed front unmatched,
    fun _ _ => BracketState.depth_run_of_bracket, exists_tokenEnd, reaches_splitToken⟩

/-- A selector with a bracket in its string ends behind the string. Without the closing quote it
does not end at all. -/
theorem brackets_and_tokens_end_selector :
    IsLeast {n | ClosesAt "['a]b'][0] != null".toList n} 7 ∧
    (∀ n, ¬ ClosesAt "['a]b[0] != null".toList n) ∧
    bracketLength? "['a]b[0] != null".toList = none ∧
    (((BracketState.code 0).run "['a]b'".toList).depth : Int) = 1 ∧
    (∃ last, Reaches "$['a]b'][0] != null".toList 1 last ∧
      1 ≤ last ∧ last ≤ byteLength "$['a]b'][0] != null".toList) ∧
    Reaches "$['a]b'][0] != null".toList 1 11 := by
  obtain ⟨some_iff, none_iff, unclosed, counts, ends, token⟩ := brackets_and_tokens_end
  refine ⟨((some_iff _ 7).mp (by decide)).2, (none_iff _).mp (by decide) rfl, ?_, ?_, ?_,
    (token "['a]b'][0] != null".toList).1⟩
  · refine unclosed ['['] '\'' "a]b[0] != null".toList (.other (by decide) .nil)
      ((none_iff ['[']).mp (by decide) rfl) (.inl rfl) ?_
    intro string rest parts text
    have quoted : '\'' ∈ "a]b[0] != null".toList :=
      parts ▸ List.mem_append_left rest text.quote_mem
    exact absurd quoted (by decide)
  · exact (counts "'a]b'][0] != null".toList "['a]b'".toList (by decide)).2.trans (by decide)
  · obtain ⟨last, reaches, -, behind, within, -⟩ := ends "$['a]b'][0] != null".toList
    exact ⟨last, reaches, behind, within (by decide)⟩

end QualityGate.Condition
