import QualityGate.Proofs.Expression.Connectives
import QualityGate.Proofs.Expression.Lexemes
import QualityGate.Proofs.Expression.Literal

/-!
# Texts that are literals

A text is a literal by itself if its lexemes are read as one (`IsLiteral`): a single lexeme, or a
number with a minus sign. It is the same literal before a parenthesis
(`IsLiteral.exists_tokens`). The runs of characters that literals consist of do not go on with a
parenthesis, and a quoted text ends with its quote.
-/

namespace QualityGate.Expression

/-- Whether a text is the literal of a value: its lexemes are read as it, and none is left. -/
def IsLiteral (cs : List Char) (x : Value) : Prop :=
  ∃ ls, Lexeme.split? cs = some ls ∧
    (readLiteral ls = some (.literal x, []) ∨ readNegative ls = some (.literal x, []))

namespace Lexeme

/-! ## Lengths before a parenthesis -/

section Lengths

/-- A run of other characters ends before a parenthesis. -/
theorem takeWhile_parenthesis {p : Char → Bool} (stops : p ')' = false) (cs more : List Char) :
    (cs ++ ')' :: more).takeWhile p = cs.takeWhile p := by
  induction cs with
  | nil => exact List.takeWhile_cons_of_neg (by simp [stops])
  | cons c cs ih => simp only [List.cons_append, List.takeWhile_cons, ih]

/-- Whether a length of the start of a text is within it, and the same before a parenthesis. -/
def Keeps (length : List Char → Nat) : Prop :=
  ∀ cs, length cs ≤ cs.length ∧ ∀ more, length (cs ++ ')' :: more) = length cs

theorem keeps_takeWhile {p : Char → Bool} (stops : p ')' = false) :
    Keeps fun cs => (cs.takeWhile p).length := fun cs =>
  ⟨(List.takeWhile_prefix p).length_le, fun more =>
    congrArg List.length (takeWhile_parenthesis stops cs more)⟩

theorem keeps_digits : Keeps digitsLength := keeps_takeWhile rfl

theorem fractionLength_of_ne {c : Char} (other : c ≠ '.') (cs : List Char) :
    fractionLength (c :: cs) = 0 := by
  rw [fractionLength]
  rintro _ ⟨⟩
  exact other rfl

theorem keeps_fraction : Keeps fractionLength := by
  intro cs
  cases cs with
  | nil => exact ⟨Nat.le_refl 0, fun more => rfl⟩
  | cons c cs =>
      by_cases point : c = '.'
      · obtain ⟨within, same⟩ := keeps_digits cs
        rw [point]
        refine ⟨?_, fun more => by rw [List.cons_append, fractionLength, fractionLength, same]⟩
        rw [fractionLength, List.length_cons]
        split <;> omega
      · refine ⟨?_, fun more => ?_⟩
        · rw [fractionLength_of_ne point]
          exact Nat.zero_le _
        · rw [List.cons_append, fractionLength_of_ne point, fractionLength_of_ne point]

theorem keeps_exponent : Keeps exponentLength := by
  intro cs
  match cs with
  | [] => exact ⟨Nat.le_refl 0, fun more => rfl⟩
  | [e] =>
      refine ⟨?_, fun more => ?_⟩
      · simp [exponentLength]
      · simp [exponentLength, digitsLength, Text.isDigit]
  | e :: s :: cs =>
      obtain ⟨within, same⟩ := keeps_digits cs
      obtain ⟨within', same'⟩ := keeps_digits (s :: cs)
      refine ⟨?_, fun more => ?_⟩
      · simp only [exponentLength, List.length_cons] at within' ⊢
        split
        · split <;> split <;> omega
        · exact Nat.zero_le _
      · have same' := same' more
        rw [List.cons_append] at same'
        simp only [exponentLength, List.cons_append, same, same']

/-- The length of a hexadecimal number: its mark and digits. -/
def hexLength : List Char → Nat
  | '0' :: 'x' :: rest =>
    if (rest.takeWhile isHexDigit).length = 0 then 0 else 2 + (rest.takeWhile isHexDigit).length
  | _ => 0

theorem hexLength_of_ne {cs : List Char} (other : ∀ rest, cs ≠ '0' :: 'x' :: rest) :
    hexLength cs = 0 := by
  unfold hexLength
  split
  case h_1 rest => exact absurd rfl (other rest)
  case h_2 => rfl

theorem keeps_hex : Keeps hexLength := by
  intro cs
  by_cases hex : ∃ rest, cs = '0' :: 'x' :: rest
  · obtain ⟨rest, rfl⟩ := hex
    have keeps : Keeps fun cs => (cs.takeWhile isHexDigit).length := keeps_takeWhile rfl
    have within : (rest.takeWhile isHexDigit).length ≤ rest.length := (keeps rest).1
    refine ⟨?_, fun more => ?_⟩
    · rw [hexLength, List.length_cons, List.length_cons]
      split <;> omega
    · have same : ((rest ++ ')' :: more).takeWhile isHexDigit).length = _ := (keeps rest).2 more
      rw [List.cons_append, List.cons_append, hexLength, hexLength, same]
  · have none : hexLength cs = 0 := hexLength_of_ne fun rest same => hex ⟨rest, same⟩
    refine ⟨by rw [none]; exact Nat.zero_le _, fun more => ?_⟩
    rw [none]
    refine hexLength_of_ne fun rest same => ?_
    match cs with
    | [] => cases same
    | [c] => cases same
    | c :: d :: cs =>
        obtain ⟨rfl, rfl, -⟩ : c = '0' ∧ d = 'x' ∧ cs ++ ')' :: more = rest := by simpa using same
        exact hex ⟨cs, rfl⟩

/-- Cuts off a number that is not hexadecimal. -/
def cutDecimal (cs : List Char) : Lexeme × List Char :=
  let whole := digitsLength cs
  let fraction := fractionLength (cs.drop whole)
  let exponent := exponentLength (cs.drop (whole + fraction))
  if fraction + exponent = 0 then cutWhole whole cs
  else cut .double (whole + fraction + exponent) cs

theorem cutNumber_eq (cs : List Char) :
    cutNumber cs = if hexLength cs = 0 then cutDecimal cs else cutWhole (hexLength cs) cs := by
  unfold cutNumber
  split
  case h_1 rest =>
      rw [hexLength]
      by_cases none : (rest.takeWhile isHexDigit).length = 0
      · rw [if_pos none, if_pos rfl, none]
        rfl
      · refine (if_pos none).trans ?_
        rw [if_neg none]
        exact (if_neg (by omega)).symm
  case h_2 other =>
      rw [hexLength_of_ne other]
      rfl

/-- What is cut off a text is also cut off a longer one. -/
theorem cut_append {kind : LexemeKind} {n : Nat} {cs : List Char} (within : n ≤ cs.length)
    (rest : List Char) :
    cut kind n (cs ++ rest) = ((cut kind n cs).1, (cut kind n cs).2 ++ rest) := by
  rw [cut, cut, List.take_append_of_le_length within, List.drop_append_of_le_length within]

/-- Whether a function that cuts off a lexeme does so alike before a parenthesis. -/
def KeepsCut (cuts : List Char → Lexeme × List Char) (cs : List Char) : Prop :=
  ∀ more, cuts (cs ++ ')' :: more) = ((cuts cs).1, (cuts cs).2 ++ ')' :: more)

theorem keepsCut_whole {n : Nat} {cs : List Char} (within : n ≤ cs.length) :
    KeepsCut (cutWhole n) cs := by
  intro more
  have behind : startsUnsigned (cs.drop n ++ ')' :: more) = startsUnsigned (cs.drop n) := by
    cases cs.drop n <;> rfl
  rw [cutWhole, cutWhole, List.drop_append_of_le_length within, behind]
  split
  case isTrue unsigned =>
      have nonempty : cs.drop n ≠ [] := by
        intro none
        rw [none] at unsigned
        cases unsigned
      have longer := mt List.drop_eq_nil_iff.mpr nonempty
      exact cut_append (by omega) _
  case isFalse => exact cut_append within _

/-- Behind the first characters of a text a length is the same as well. -/
theorem Keeps.drop {length : List Char → Nat} (keeps : Keeps length) {n : Nat} {cs : List Char}
    (within : n ≤ cs.length) : n + length (cs.drop n) ≤ cs.length ∧
      ∀ more, length ((cs ++ ')' :: more).drop n) = length (cs.drop n) := by
  obtain ⟨short, same⟩ := keeps (cs.drop n)
  rw [List.length_drop] at short
  refine ⟨by omega, fun more => ?_⟩
  rw [List.drop_append_of_le_length within, same]

theorem keepsCut_decimal (cs : List Char) : KeepsCut cutDecimal cs := by
  intro more
  obtain ⟨whole, digits⟩ := keeps_digits cs
  obtain ⟨point, fraction⟩ := keeps_fraction.drop whole
  obtain ⟨mark, exponent⟩ := keeps_exponent.drop point
  unfold cutDecimal
  simp only [digits, fraction, exponent]
  split
  · exact keepsCut_whole whole more
  · exact cut_append mark _

/-- Cuts off a number that starts with a point. -/
def cutFraction (cs : List Char) : Lexeme × List Char :=
  let fraction := fractionLength cs
  cut .double (fraction + exponentLength (cs.drop fraction)) cs

theorem keepsCut_fraction (cs : List Char) : KeepsCut cutFraction cs := by
  intro more
  obtain ⟨within, fraction⟩ := keeps_fraction cs
  obtain ⟨whole, exponent⟩ := keeps_exponent.drop within
  unfold cutFraction
  simp only [fraction, exponent]
  exact cut_append whole _

theorem keepsCut_number (cs : List Char) : KeepsCut cutNumber cs := by
  intro more
  obtain ⟨within, same⟩ := keeps_hex cs
  rw [cutNumber_eq, cutNumber_eq, same]
  split
  · exact keepsCut_decimal cs more
  · exact keepsCut_whole within more

end Lengths

/-! ## Lexemes before a parenthesis -/

section Next

variable {cs : List Char} {l : Lexeme}

theorem kind_of_cut {kind : LexemeKind} {n : Nat} {rest : List Char}
    (cuts : some (cut kind n cs) = some (l, rest)) : l.kind = kind :=
  congrArg (fun parts => parts.1.kind) (Option.some.inj cuts).symm

/-- What is cut off as a whole has the length of the text, if it is not longer. -/
theorem whole_of_cut {kind : LexemeKind} {n : Nat} (cuts : some (cut kind n cs) = some (l, []))
    (within : n ≤ cs.length) : n = cs.length ∧ l = ⟨kind, cs⟩ := by
  obtain ⟨own, behind⟩ := Prod.mk.inj (Option.some.inj cuts)
  have long := List.drop_eq_nil_iff.mp behind
  exact ⟨Nat.le_antisymm within long, by rw [← own, List.take_of_length_le long]⟩

theorem isPrefixOf_parenthesis (c : Char) (cs more : List Char) :
    ['/', '/'].isPrefixOf (c :: (cs ++ ')' :: more)) = ['/', '/'].isPrefixOf (c :: cs) := by
  cases cs <;> simp [List.isPrefixOf]

theorem startsUnquoted_parenthesis (more : List Char) : StartsUnquoted (')' :: more) := by
  rintro _ ⟨⟩
  decide

theorem endsName_parenthesis (more : List Char) : EndsName (')' :: more) := by
  rintro _ ⟨⟩
  decide

/-- A literal of bytes is a mark and a text literal. -/
theorem bytesLength_cases {c : Char} (found : bytesLength (c :: cs) ≠ 0) :
    (c = 'b' ∨ c = 'B') ∧ textLength cs ≠ 0 ∧ bytesLength (c :: cs) = 1 + textLength cs := by
  rw [bytesLength] at found ⊢
  split at found
  case isTrue mark =>
      have text : textLength cs ≠ 0 := fun none => found (if_pos none)
      exact ⟨by simpa using mark, text, by rw [if_pos mark, if_neg text]⟩
  case isFalse => exact absurd rfl found

/-- A literal of bytes is the next lexeme before a parenthesis. -/
theorem next_bytes {c : Char} (mark : c = 'b' ∨ c = 'B') (whole : textLength cs = cs.length)
    (nonempty : cs ≠ []) (more : List Char) :
    next (c :: cs ++ ')' :: more) = some (⟨.bytes, c :: cs⟩, ')' :: more) := by
  have length := textLength_append whole nonempty (startsUnquoted_parenthesis more)
  have long : cs.length ≠ 0 := mt List.length_eq_zero_iff.mp nonempty
  have noText : textLength (c :: (cs ++ ')' :: more)) = 0 := by
    refine Decidable.byContradiction fun found => ?_
    rcases starts_of_textLength found with rfl | rfl | rfl | rfl <;> simp at mark
  have bytes : bytesLength (c :: (cs ++ ')' :: more)) = 1 + cs.length := by
    rcases mark with rfl | rfl <;> simp [bytesLength, length, long]
  have others : isBlank c = false ∧ ['/', '/'].isPrefixOf (c :: (cs ++ ')' :: more)) = false ∧
      Text.isDigit c = false ∧ (c == '.') = false := by
    rcases mark with rfl | rfl <;> exact ⟨rfl, rfl, rfl, rfl⟩
  obtain ⟨blank, comment, digit, point⟩ := others
  rw [List.cons_append]
  simp only [next, blank, comment, digit, point, Bool.false_and, Bool.false_eq_true, if_false,
    noText, bytes]
  rw [if_neg (by simp), if_pos (by omega), cut, ← List.cons_append, Nat.add_comm,
    ← List.length_cons, List.take_left, List.drop_left]

/-- A name that is cut off as a whole is the next lexeme before a parenthesis. -/
theorem next_run {c : Char} (start : Text.isNameStart c = true)
    (whole : some (cut .name (1 + (cs.takeWhile Text.isNameRest).length) (c :: cs)) = some (l, []))
    (more : List Char) : next (c :: cs ++ ')' :: more) = some (l, ')' :: more) := by
  have run : cs.takeWhile Text.isNameRest <+: cs := List.takeWhile_prefix _
  have short := run.length_le
  obtain ⟨long, rfl⟩ := whole_of_cut whole (by rw [List.length_cons]; omega)
  rw [List.length_cons] at long
  have all := run.eq_of_length (by omega)
  refine next_name start (fun d member => ?_) (endsName_parenthesis more)
  exact List.all_eq_true.mp List.all_takeWhile d (all ▸ member)

/-- **A literal is cut off alike before a parenthesis.** -/
theorem next_parenthesis (whole : next cs = some (l, []))
    (kind : l.kind ∉ [.blank, .comment, .quotedName, .sign]) (more : List Char) :
    next (cs ++ ')' :: more) = some (l, ')' :: more) := by
  obtain ⟨c, cs, rfl⟩ := List.exists_cons_of_ne_nil (next_cases whole).1
  have other {other : LexemeKind} (same : l.kind = other)
      (member : other ∈ [LexemeKind.blank, .comment, .quotedName, .sign]) :
      next (c :: cs ++ ')' :: more) = some (l, ')' :: more) := absurd (same ▸ member) kind
  have comments := isPrefixOf_parenthesis c cs more
  rw [next] at whole
  by_cases blank : isBlank c = true
  · rw [if_pos blank] at whole
    exact other (kind_of_cut whole) (by decide)
  rw [if_neg blank] at whole
  by_cases comment : ['/', '/'].isPrefixOf (c :: cs) = true
  · rw [if_pos comment] at whole
    exact other (kind_of_cut whole) (by decide)
  rw [if_neg comment] at whole
  rw [← comments] at comment
  by_cases digit : Text.isDigit c = true
  · rw [if_pos digit] at whole
    have cuts := keepsCut_number (c :: cs) more
    rw [Option.some.inj whole] at cuts
    rw [List.cons_append, next, if_neg blank, if_neg comment, if_pos digit]
    exact congrArg some cuts
  rw [if_neg digit] at whole
  by_cases point : (c == '.' && fractionLength (c :: cs) ≠ 0) = true
  · rw [if_pos point] at whole
    have fraction := (keeps_fraction (c :: cs)).2 more
    rw [List.cons_append] at fraction
    have own : cutFraction (c :: cs) = (l, []) := Option.some.inj whole
    have cuts := keepsCut_fraction (c :: cs) more
    rw [own] at cuts
    rw [List.cons_append, next, if_neg blank, if_neg comment, if_neg digit, fraction, if_pos point,
      ← fraction]
    exact congrArg some cuts
  rw [if_neg point] at whole
  by_cases text : textLength (c :: cs) ≠ 0
  · rw [if_pos text] at whole
    obtain ⟨long, rfl⟩ := whole_of_cut whole (textLength_le_length _)
    exact next_text long (List.cons_ne_nil c cs) (startsUnquoted_parenthesis more)
  rw [if_neg text] at whole
  by_cases bytes : bytesLength (c :: cs) ≠ 0
  · rw [if_pos bytes] at whole
    obtain ⟨mark, inner, length⟩ := bytesLength_cases bytes
    rw [length] at whole
    have within := textLength_le_length cs
    obtain ⟨long, rfl⟩ := whole_of_cut whole (by rw [List.length_cons]; omega)
    rw [List.length_cons] at long
    refine next_bytes mark (by omega) ?_ more
    rintro rfl
    exact inner rfl
  rw [if_neg bytes] at whole
  by_cases start : Text.isNameStart c = true
  · rw [if_pos start] at whole
    exact next_run start whole more
  rw [if_neg start] at whole
  split at whole
  case isTrue => exact other (kind_of_cut whole) (by decide)
  split at whole
  case isTrue => exact other (kind_of_cut whole) (by decide)
  case isFalse => cases whole

end Next

/-! ## Tokens before a parenthesis -/

/-- The minus sign is a token by itself. -/
theorem tokens?_minus (cs : List Char) :
    tokens? ('-' :: cs) = (tokens? cs).map (sign "-" :: ·) := by
  refine tokens?_of_next ?_ rfl
  cases cs <;>
    simp [next, isBlank, Text.isDigit, textLength, bytesLength, quotedLength, Text.isNameStart,
      Text.isLetter, quotedNameLength, signLength, isPair, isSingle, cut, sign]

end Lexeme

/-! ## Literals -/

section Literals

open Lexeme (tokens? split? next_parenthesis)

variable {cs : List Char} {ls : List Lexeme} {t : Term} {x : Value}

/-- A literal is read from a single lexeme, of one of the kinds that literals have. -/
theorem exists_of_readLiteral (read : readLiteral ls = some (t, [])) :
    ∃ l, ls = [l] ∧ l.kind ∉ [.blank, .comment, .quotedName, .sign] ∧
      ∀ rest, readLiteral (l :: rest) = some (t, rest) := by
  cases ls with
  | nil => cases read
  | cons l ls =>
      obtain ⟨v, value, same⟩ := Option.map_eq_some_iff.mp read
      obtain ⟨rfl, rfl⟩ := Prod.mk.inj same
      refine ⟨l, rfl, fun other => ?_, fun rest => Option.map_eq_some_iff.mpr ⟨v, value, rfl⟩⟩
      simp only [List.mem_cons, List.not_mem_nil, or_false] at other
      rcases other with kind | kind | kind | kind <;>
        · rw [kind] at value
          cases value

/-- A number with a minus sign is read from the sign and a single lexeme. -/
theorem exists_of_readNegative (read : readNegative ls = some (t, [])) :
    ∃ l, ls = [sign "-", l] ∧ (l.kind = .integer ∨ l.kind = .double) ∧
      ∀ rest, readNegative (sign "-" :: l :: rest) = some (t, rest) := by
  match ls with
  | [] | [_] => cases read
  | s :: l :: ls =>
      obtain ⟨rfl, read⟩ := Option.ite_none_right_eq_some.mp read
      obtain ⟨v, value, same⟩ := Option.map_eq_some_iff.mp read
      obtain ⟨rfl, rfl⟩ := Prod.mk.inj same
      refine ⟨l, rfl, ?_, fun rest => ?_⟩
      · split at value
        case h_1 kind => exact .inl kind
        case h_2 kind => exact .inr kind
        case h_3 => cases value
      · rw [readNegative, if_pos rfl]
        exact Option.map_eq_some_iff.mpr ⟨v, value, rfl⟩

/-- A text with a single lexeme is cut off as a whole. -/
theorem next_of_single {l : Lexeme} (single : split? cs = some [l]) :
    Lexeme.next cs = some (l, []) := by
  obtain ⟨rest, next, behind⟩ := Lexeme.exists_next_of_split? single
  have none := Lexeme.charsOf_lexemes rest
  rw [Lexeme.lexemes_of_split? behind] at none
  rw [next, ← none]
  rfl

/-- **A literal is the same before a parenthesis.** It is cut into tokens of its own there, and these
are read as the literal. -/
theorem IsLiteral.exists_tokens (denotes : IsLiteral cs x) :
    ∃ l ls, l ≠ sign ")" ∧
      (∀ rest, tokens? (cs ++ ')' :: rest) = (tokens? (')' :: rest)).map (l :: ls ++ ·)) ∧
      ∀ term, Reads (readUnary term) operandStops (l :: ls) (.literal x) := by
  have tokens {ds : List Char} {l : Lexeme} (single : split? ds = some [l])
      (kind : l.kind ∉ [.blank, .comment, .quotedName, .sign]) (rest : List Char) :
      tokens? (ds ++ ')' :: rest) = (tokens? (')' :: rest)).map (l :: ·) := by
    refine Lexeme.tokens?_of_next (next_parenthesis (next_of_single single) kind rest) ?_
    simp only [List.mem_cons, not_or] at kind
    simp [Lexeme.isToken, kind.1, kind.2.1]
  obtain ⟨ls, cuts, read | read⟩ := denotes
  · obtain ⟨l, rfl, kind, reads⟩ := exists_of_readLiteral read
    have noSign : l.kind ≠ .sign := fun same => kind (by simp [same])
    refine ⟨l, [], ?_, tokens cuts kind, fun term => reads_literal noSign reads⟩
    rintro rfl
    exact noSign rfl
  · obtain ⟨l, rfl, number, reads⟩ := exists_of_readNegative read
    have kind : l.kind ∉ [.blank, .comment, .quotedName, .sign] := by
      rcases number with same | same <;> simp [same]
    obtain ⟨ds, next, single⟩ := Lexeme.exists_next_of_split? cuts
    obtain rfl : '-' :: ds = cs := Lexeme.append_of_next next
    refine ⟨sign "-", [l], by decide, fun rest => ?_, fun term => reads_negative number reads⟩
    rw [List.cons_append, Lexeme.tokens?_minus, tokens single kind, Option.map_map]
    rfl

end Literals

end QualityGate.Expression
