import Mathlib.Algebra.BigOperators.Group.List.Basic
import QualityGate.Proofs.Condition.Token

/-!
# Segments of paths

A segment of a token's path is a name or a star behind one point or two, or it stands in brackets.
This module says what these are without a reader: brackets are balanced, apart from those in strings
(`Balanced`), and names consist of letters, digits and underscores (`IsSegment`).

The reader of tokens cuts off segments only, and it cuts off every row of them before a character
that goes on with none (`exists_segments_splitToken`, `splitToken_flatten`).
-/

namespace QualityGate.Condition

/-! ## Brackets -/

/-- What is left of a string behind its opening quote, with the closing one. A backslash takes the
meaning from the character after it. -/
inductive StringRest (quote : Char) : List Char → Prop
  | close : StringRest quote [quote]
  | escape {c : Char} {cs : List Char} : StringRest quote cs → StringRest quote ('\\' :: c :: cs)
  | other {c : Char} {cs : List Char} :
    c ≠ '\\' → c ≠ quote → StringRest quote cs → StringRest quote (c :: cs)

/-- A text in which every bracket is matched. Brackets in strings are none. -/
inductive Balanced : List Char → Prop
  | nil : Balanced []
  | bracket {inside rest : List Char} :
    Balanced inside → Balanced rest → Balanced ('[' :: inside ++ ']' :: rest)
  | string {quote : Char} {string rest : List Char} :
    quote = '\'' ∨ quote = '"' → StringRest quote string → Balanced rest →
    Balanced (quote :: string ++ rest)
  | other {c : Char} {rest : List Char} :
    c ∉ ['\'', '"', '[', ']'] → Balanced rest → Balanced (c :: rest)

section Brackets

variable {s t : BracketState} {depth : Nat} {quote c : Char} {cs string inside a b : List Char}

theorem splitClosed?_of_step (step : s.step c = t) (opened : t ≠ .code 0)
    (behind : splitClosed? t cs = some (a, b)) : splitClosed? s (c :: cs) = some (c :: a, b) := by
  rw [splitClosed?, step, if_neg opened, behind]
  rfl

/-- The rest of a string is passed over. -/
theorem StringRest.splitClosed? (rest : StringRest quote string) (plain : quote ≠ '\\')
    (behind : splitClosed? (.code (depth + 1)) cs = some (a, b)) :
    splitClosed? (.quoted (depth + 1) quote) (string ++ cs) = some (string ++ a, b) := by
  induction rest with
  | close =>
      have step : (BracketState.quoted (depth + 1) quote).step quote = .code (depth + 1) := by
        simp [BracketState.step, plain]
      exact splitClosed?_of_step step (by simp) behind
  | @escape c more _ ih =>
      have step : (BracketState.quoted (depth + 1) quote).step '\\' =
        .escaped (depth + 1) quote := by simp [BracketState.step]
      have passed : (BracketState.escaped (depth + 1) quote).step c = .quoted (depth + 1) quote :=
        rfl
      exact splitClosed?_of_step step (by simp) (splitClosed?_of_step passed (by simp) ih)
  | @other c more noBackslash noQuote _ ih =>
      have step : (BracketState.quoted (depth + 1) quote).step c = .quoted (depth + 1) quote := by
        simp [BracketState.step, noBackslash, noQuote]
      exact splitClosed?_of_step step (by simp) ih

/-- A balanced text within brackets is passed over. -/
theorem Balanced.splitClosed? (balanced : Balanced inside)
    (behind : splitClosed? (.code (depth + 1)) cs = some (a, b)) :
    splitClosed? (.code (depth + 1)) (inside ++ cs) = some (inside ++ a, b) := by
  induction balanced generalizing depth cs a b with
  | nil => exact behind
  | @bracket inside rest _ _ ihInside ihRest =>
      have closes : splitClosed? (.code (depth + 2)) (']' :: (rest ++ cs)) =
          some (']' :: (rest ++ a), b) :=
        splitClosed?_of_step (t := .code (depth + 1)) rfl (by simp) (ihRest behind)
      have opens := splitClosed?_of_step (s := .code (depth + 1)) (t := .code (depth + 2))
        (c := '[') rfl (by simp) (ihInside closes)
      simpa using opens
  | @string quote string rest isQuote text _ ih =>
      have plain : quote ≠ '\\' := by rcases isQuote with rfl | rfl <;> decide
      have step : (BracketState.code (depth + 1)).step quote = .quoted (depth + 1) quote := by
        simp [BracketState.step, isQuote]
      have opens := splitClosed?_of_step step (by simp) (text.splitClosed? plain (ih behind))
      simpa using opens
  | @other c rest plain _ ih =>
      have step : (BracketState.code (depth + 1)).step c = .code (depth + 1) := by
        simp only [List.mem_cons, List.not_mem_nil, or_false, not_or] at plain
        simp [BracketState.step, plain]
      exact splitClosed?_of_step step (by simp) (ih behind)

/-- Whether a text closes so many brackets, the last of them with its last character. -/
def Closes : Nat → List Char → Prop
  | 0, cs => cs = []
  | depth + 1, cs => ∃ inside more, Balanced inside ∧ cs = inside ++ ']' :: more ∧ Closes depth more

/-- Whether a reader of a bracket segment in the given state comes to its end with the text. -/
def BracketState.Ends : BracketState → List Char → Prop
  | code depth, cs => Closes depth cs
  | quoted depth quote, cs =>
    ∃ string more, StringRest quote string ∧ cs = string ++ more ∧ Closes depth more
  | escaped depth quote, cs =>
    ∃ c string more, StringRest quote string ∧ cs = c :: (string ++ more) ∧ Closes depth more

theorem Closes.push (text : Closes (depth + 1) cs)
    (grows : ∀ inside, Balanced inside → Balanced (a ++ inside)) :
    Closes (depth + 1) (a ++ cs) := by
  obtain ⟨inside, more, balanced, rfl, behind⟩ := text
  exact ⟨a ++ inside, more, grows inside balanced, by simp, behind⟩

/-- One more character at the start. The number of brackets that it leaves open is at least one
before a reader is at its end, so closing one takes one away. -/
theorem BracketState.Ends.cons (opened : s ≠ .code 0) (behind : (s.step c).Ends cs) :
    s.Ends (c :: cs) := by
  cases s with
  | code depth =>
      have positive : depth ≠ 0 := fun zero => opened (by rw [zero])
      obtain ⟨depth, rfl⟩ := Nat.exists_eq_succ_of_ne_zero positive
      unfold step at behind
      dsimp only at behind
      split at behind
      case isTrue isQuote =>
          obtain ⟨string, more, text, rfl, closes⟩ := behind
          exact closes.push (a := c :: string) fun inside balanced => .string isQuote text balanced
      case isFalse noQuote =>
          split at behind
          case isTrue opens =>
              obtain ⟨inside, more, balanced, rfl, closes⟩ := behind
              have grown := closes.push (a := '[' :: inside ++ [']']) fun others rest => by
                simpa using Balanced.bracket balanced rest
              rw [List.append_assoc, List.singleton_append] at grown
              rw [opens]
              exact grown
          case isFalse noOpening =>
              split at behind
              case isTrue closes =>
                  rw [closes]
                  exact ⟨[], cs, .nil, rfl, behind⟩
              case isFalse noClosing =>
                  have plain : c ∉ ['\'', '"', '[', ']'] := by simp_all
                  exact Closes.push (a := [c]) behind fun inside balanced => .other plain balanced
  | quoted depth quote =>
      unfold step at behind
      dsimp only at behind
      split at behind
      case isTrue backslash =>
          obtain ⟨d, string, more, text, rfl, closes⟩ := behind
          rw [backslash]
          exact ⟨'\\' :: d :: string, more, .escape text, rfl, closes⟩
      case isFalse noBackslash =>
          split at behind
          case isTrue same =>
              rw [same]
              exact ⟨[quote], cs, .close, rfl, behind⟩
          case isFalse noQuote =>
              obtain ⟨string, more, text, rfl, closes⟩ := behind
              exact ⟨c :: string, more, .other noBackslash noQuote text, rfl, closes⟩
  | escaped depth quote =>
      obtain ⟨string, more, text, rfl, closes⟩ := behind
      exact ⟨c, string, more, text, rfl, closes⟩

/-- What is cut off comes to the end of the segment. -/
theorem ends_of_splitClosed? (h : splitClosed? s cs = some (a, b)) (opened : s ≠ .code 0) :
    s.Ends a := by
  induction cs generalizing s a b with
  | nil => cases h
  | cons c cs ih =>
      unfold splitClosed? at h
      split at h
      case isTrue last =>
          cases h
          refine .cons opened ?_
          rw [last]
          rfl
      case isFalse goesOn =>
          obtain ⟨⟨front, back⟩, cut, h⟩ := Option.map_eq_some_iff.mp h
          cases h
          exact .cons opened (ih cut goesOn)

end Brackets

/-- What is cut off as a bracket segment is a balanced text in brackets. -/
theorem splitBracket?_eq_some_iff {cs a b : List Char} :
    splitBracket? cs = some (a, b) ↔
      ∃ inside, Balanced inside ∧ a = '[' :: inside ++ [']'] ∧ cs = a ++ b := by
  constructor
  · intro h
    have parts := append_of_splitBracket? h
    unfold splitBracket? at h
    split at h
    case h_1 rest =>
        obtain ⟨⟨front, back⟩, cut, h⟩ := Option.map_eq_some_iff.mp h
        cases h
        obtain ⟨inside, more, balanced, rfl, rfl⟩ := ends_of_splitClosed? cut (by simp)
        exact ⟨inside, balanced, rfl, parts.symm⟩
    case h_2 => cases h
  · rintro ⟨inside, balanced, rfl, rfl⟩
    have closes : splitClosed? (.code 1) (']' :: b) = some ([']'], b) := if_pos rfl
    have cut := balanced.splitClosed? closes
    have text : '[' :: inside ++ [']'] ++ b = '[' :: (inside ++ ']' :: b) := by simp
    rw [text, splitBracket?, cut]
    rfl

/-! ## Segments -/

/-- A name of letters, digits and underscores that does not start with a digit. -/
def IsPlainName (name : List Char) : Prop :=
  ∃ c cs, name = c :: cs ∧ Text.isNameStart c = true ∧ ∀ d ∈ cs, Text.isNameRest d = true

/-- A complete segment of a path. -/
inductive IsSegment : List Char → Prop
  | child {name : List Char} : name = ['*'] ∨ IsPlainName name → IsSegment ('.' :: name)
  | descendant {name : List Char} :
    name = ['*'] ∨ IsPlainName name → IsSegment ('.' :: '.' :: name)
  | bracket {inside : List Char} : Balanced inside → IsSegment ('[' :: inside ++ [']'])

/-- A path of complete segments. -/
def IsPath (path : List Char) : Prop :=
  ∃ segments : List (List Char), (∀ s ∈ segments, IsSegment s) ∧ path = '$' :: segments.flatten

section Segments

variable {cs a b name rest segment : List Char}

theorem IsPlainName.isNameRest (plain : IsPlainName name) :
    ∀ c ∈ name, Text.isNameRest c = true := by
  obtain ⟨c, cs, rfl, start, others⟩ := plain
  exact List.forall_mem_cons.mpr ⟨Bool.or_eq_true_iff.mpr (.inl start), others⟩

theorem memberName_of_splitMemberName? (h : splitMemberName? cs = some (a, b)) :
    a = ['*'] ∨ IsPlainName a := by
  cases cs with
  | nil => cases h
  | cons c cs =>
      dsimp only [splitMemberName?] at h
      split at h
      · cases h
        exact .inl rfl
      · obtain ⟨start, h⟩ := Option.ite_none_right_eq_some.mp h
        cases h
        exact .inr ⟨c, _, rfl, start, List.all_eq_true.mp List.all_takeWhile⟩

theorem isSegment_of_splitMember? (h : splitMember? cs = some (a, b)) : IsSegment a := by
  unfold splitMember? at h
  split at h
  case h_1 rest =>
      obtain ⟨⟨front, back⟩, name, h⟩ := Option.map_eq_some_iff.mp h
      cases h
      exact .descendant (memberName_of_splitMemberName? name)
  case h_2 rest _ =>
      obtain ⟨⟨front, back⟩, name, h⟩ := Option.map_eq_some_iff.mp h
      cases h
      exact .child (memberName_of_splitMemberName? name)
  case h_3 => cases h

/-- What is cut off as a segment is one. -/
theorem isSegment_of_splitSegment? (h : splitSegment? cs = some (a, b)) : IsSegment a := by
  unfold splitSegment? at h
  cases member : splitMember? cs with
  | none =>
      rw [member] at h
      obtain ⟨inside, balanced, rfl, -⟩ := splitBracket?_eq_some_iff.mp h
      exact .bracket balanced
  | some parts =>
      rw [member] at h
      exact isSegment_of_splitMember? (member.trans h)

/-- Whether a name ends before a text. -/
def EndsMember (rest : List Char) : Prop := ∀ c ∈ rest.head?, Text.isNameRest c = false

theorem splitMemberName?_append (member : name = ['*'] ∨ IsPlainName name)
    (ends : EndsMember rest) : splitMemberName? (name ++ rest) = some (name, rest) := by
  rcases member with rfl | ⟨c, cs, rfl, start, others⟩
  · rfl
  · have noStar : c ≠ '*' := by
      rintro rfl
      cases start
    have run : (cs ++ rest).takeWhile Text.isNameRest = cs ∧
        (cs ++ rest).dropWhile Text.isNameRest = rest := by
      rw [List.takeWhile_append_of_pos others, List.dropWhile_append_of_pos others]
      cases rest with
      | nil => exact ⟨List.append_nil cs, rfl⟩
      | cons d ds =>
          have stops : Text.isNameRest d = false := ends d rfl
          simp [stops]
    rw [List.cons_append, splitMemberName?, if_neg noStar, if_pos start, run.1, run.2]

/-- A segment is cut off where no name goes on behind it. -/
theorem IsSegment.splitSegment?_append (complete : IsSegment segment) (ends : EndsMember rest) :
    splitSegment? (segment ++ rest) = some (segment, rest) := by
  unfold splitSegment?
  cases complete with
  | @child name member =>
      have single : ∀ more, name ++ rest ≠ '.' :: more := by
        intro more second
        rcases member with rfl | ⟨c, cs, rfl, start, -⟩
        · cases second
        · rw [List.cons_append] at second
          rw [(List.cons.inj second).1] at start
          cases start
      have cut : splitMember? ('.' :: (name ++ rest)) = some ('.' :: name, rest) := by
        rw [splitMember?, splitMemberName?_append member ends]
        · rfl
        · exact single
      rw [List.cons_append, cut]
      rfl
  | @descendant name member =>
      have cut : splitMember? ('.' :: '.' :: (name ++ rest)) = some ('.' :: '.' :: name, rest) := by
        rw [splitMember?, splitMemberName?_append member ends]
        rfl
      rw [List.cons_append, List.cons_append, cut]
      rfl
  | @bracket inside balanced =>
      have cut := splitBracket?_eq_some_iff.mpr ⟨inside, balanced, rfl, (rfl : _ ++ rest = _)⟩
      rw [cut]
      rfl

/-- Whether a text goes on neither with a name nor with a segment. -/
def EndsPath (rest : List Char) : Prop :=
  ∀ c ∈ rest.head?, Text.isNameRest c = false ∧ c ≠ '.' ∧ c ≠ '['

theorem splitSegment?_of_endsPath (ends : EndsPath rest) : splitSegment? rest = none := by
  cases rest with
  | nil => rfl
  | cons c rest =>
      obtain ⟨-, noPoint, noBracket⟩ := ends c rfl
      simp [splitSegment?, splitMember?, splitBracket?, noPoint, noBracket]

/-- A name ends before the next segment, or else with the path. -/
theorem endsMember_flatten {segments : List (List Char)} (complete : ∀ s ∈ segments, IsSegment s)
    (ends : EndsPath rest) : EndsMember (segments.flatten ++ rest) := by
  cases segments with
  | nil => exact fun c head => (ends c head).1
  | cons s segments =>
      intro c head
      cases complete s List.mem_cons_self <;> cases head <;> rfl

theorem IsSegment.ne_nil (complete : IsSegment segment) : segment ≠ [] := by
  cases complete <;> exact List.cons_ne_nil _ _

/-- Complete segments are cut off as a whole where the path ends behind them. -/
theorem splitToken_flatten {segments : List (List Char)} (complete : ∀ s ∈ segments, IsSegment s)
    (ends : EndsPath rest) : splitToken (segments.flatten ++ rest) = (segments.flatten, rest) := by
  have bounded {bound : Nat} (enough : segments.length ≤ bound) :
      splitSegments bound (segments.flatten ++ rest) = (segments.flatten, rest) := by
    induction segments generalizing bound with
    | nil =>
        cases bound with
        | zero => rfl
        | succ bound => rw [List.flatten_nil, List.nil_append, splitSegments,
            splitSegment?_of_endsPath ends]
    | cons s segments ih =>
        obtain ⟨first, complete⟩ := List.forall_mem_cons.mp complete
        obtain ⟨bound, rfl⟩ := Nat.exists_eq_add_of_le' enough
        have cut := first.splitSegment?_append (endsMember_flatten complete ends)
        rw [List.flatten_cons, List.append_assoc, List.length_cons, ← Nat.add_assoc, splitSegments,
          cut]
        dsimp only
        rw [ih complete (Nat.le_add_left _ _)]
  refine bounded ?_
  have few := List.length_le_sum_of_one_le (segments.map List.length)
    (List.forall_mem_map.mpr fun s member => List.length_pos_iff.mpr (complete s member).ne_nil)
  rw [List.length_map, ← List.length_flatten] at few
  rw [List.length_append]
  omega

/-- What is cut off as a token consists of complete segments. -/
theorem exists_segments_splitToken (cs : List Char) :
    ∃ segments : List (List Char), (∀ s ∈ segments, IsSegment s) ∧
      (splitToken cs).1 = segments.flatten := by
  have bounded (bound : Nat) : ∃ segments : List (List Char), (∀ s ∈ segments, IsSegment s) ∧
      (splitSegments bound cs).1 = segments.flatten := by
    induction bound generalizing cs with
    | zero => exact ⟨[], by simp, rfl⟩
    | succ bound ih =>
        unfold splitSegments
        split
        case h_1 a rest cut =>
            obtain ⟨segments, complete, parts⟩ := ih rest
            refine ⟨a :: segments, List.forall_mem_cons.mpr
              ⟨isSegment_of_splitSegment? cut, complete⟩, ?_⟩
            rw [List.flatten_cons, ← parts]
        case h_2 => exact ⟨[], by simp, rfl⟩
  exact bounded cs.length

/-- A path is what a token may be as a whole. -/
theorem isPath_iff (cs : List Char) : IsPath ('$' :: cs) ↔ splitToken cs = (cs, []) := by
  constructor
  · rintro ⟨segments, complete, whole⟩
    obtain rfl := (List.cons.inj whole).2
    have cut : splitToken (segments.flatten ++ []) = (segments.flatten, []) :=
      splitToken_flatten complete (by simp [EndsPath])
    rwa [List.append_nil] at cut
  · intro cut
    obtain ⟨segments, complete, parts⟩ := exists_segments_splitToken cs
    rw [cut] at parts
    exact ⟨segments, complete, congrArg ('$' :: ·) parts⟩

end Segments

end QualityGate.Condition
