import QualityGate.Proofs.Expression.Literal
import QualityGate.Quantifier.Call

/-!
# Texts in quotes

An element condition is read up to the next quote of its kind that is not escaped, and what is left
of it has none of the backslashes of its escapes (`readQuoted?_of_quoted`). A text literal in single
or double quotes, neither raw nor in three of them, is a text in quotes of this form
(`quoted_of_next`). So it is read as far as it goes, but what is read is not always what it denotes:
it is if each backslash stands before a character that it only keeps as it is
(`text?_of_ownEscapes`).
-/

namespace QualityGate.Quantifier

open Expression (Lexeme Literal.joinPieces Literal.text? Literal.readEscape)
open Expression.Lexeme (escapeLength lineLength stepLength isHexDigit)

/-! ## Between quotes -/

/-- What stands between two quotes: characters, and escapes of characters. -/
inductive Quoted (quote : Char) : List Char → Prop where
  | nil : Quoted quote []
  | plain {c : Char} {cs : List Char} (other : c ≠ quote) (unescaped : c ≠ '\\')
      (rest : Quoted quote cs) : Quoted quote (c :: cs)
  | escape {c : Char} {cs : List Char} (sameLine : c ≠ '\n') (rest : Quoted quote cs) :
      Quoted quote ('\\' :: c :: cs)

/-- A text without the backslashes of its escapes. -/
def withoutBackslashes : List Char → List Char
  | '\\' :: c :: rest => c :: withoutBackslashes rest
  | c :: rest => c :: withoutBackslashes rest
  | [] => []

/-- Whether each backslash stands before another one, a question mark, a backquote or the quote. -/
def OwnEscapes (quote : Char) : List Char → Prop
  | '\\' :: c :: rest => (c = '\\' ∨ c = '?' ∨ c = '\x60' ∨ c = quote) ∧ OwnEscapes quote rest
  | _ :: rest => OwnEscapes quote rest
  | [] => True

section Quoted

variable {quote c : Char} {cs inside : List Char}

theorem withoutBackslashes_cons (unescaped : c ≠ '\\') (cs : List Char) :
    withoutBackslashes (c :: cs) = c :: withoutBackslashes cs := by
  simp [withoutBackslashes, unescaped]

theorem ownEscapes_cons (unescaped : c ≠ '\\') (cs : List Char) :
    OwnEscapes quote (c :: cs) ↔ OwnEscapes quote cs := by
  simp [OwnEscapes, unescaped]

theorem readQuoted?_cons (unescaped : c ≠ '\\') (cs : List Char) :
    readQuoted? quote (c :: cs) =
      if c = quote then some ([], cs)
      else (readQuoted? quote cs).map fun (a, b) => (c :: a, b) := by
  simp [readQuoted?, unescaped]

/-- A text in quotes is read as far as the closing one, without the backslashes of its escapes. -/
theorem readQuoted?_of_quoted (quoted : Quoted quote inside) (mark : quote ≠ '\\')
    (rest : List Char) :
    readQuoted? quote (inside ++ quote :: rest) = some (withoutBackslashes inside, rest) := by
  induction quoted with
  | nil => rw [List.nil_append, readQuoted?_cons mark, if_pos rfl, withoutBackslashes]
  | plain other unescaped _ ih =>
      rw [List.cons_append, readQuoted?_cons unescaped, if_neg other, ih,
        withoutBackslashes_cons unescaped]
      rfl
  | escape sameLine _ ih =>
      rw [List.cons_append, List.cons_append, readQuoted?, if_neg sameLine, ih, withoutBackslashes]
      rfl

/-- What only keeps a character as it is is read as this character. -/
theorem readEscape_of_own (mark : quote = '\'' ∨ quote = '"')
    (own : c = '\\' ∨ c = '?' ∨ c = '\x60' ∨ c = quote) (cs : List Char) :
    Literal.readEscape quote (c :: cs) = some ([c], cs) := by
  rcases own with rfl | rfl | rfl | rfl
  · rfl
  · rfl
  · rfl
  · rcases mark with rfl | rfl <;> rfl

theorem joinPieces_of_ownEscapes (quoted : Quoted quote inside) (own : OwnEscapes quote inside)
    (mark : quote = '\'' ∨ quote = '"') {fuel : Nat} (enough : inside.length + 2 ≤ fuel) :
    Literal.joinPieces (some quote) fuel (inside ++ [quote]) =
      some (withoutBackslashes inside) := by
  have plain {c : Char} (unescaped : c ≠ '\\') (fuel : Nat) (cs : List Char) :
      Literal.joinPieces (some quote) (fuel + 1) (c :: cs) =
        if c = quote then Literal.joinPieces none fuel cs
        else (Literal.joinPieces (some quote) fuel cs).map (c :: ·) := by
    simp [Literal.joinPieces]
  induction quoted generalizing fuel with
  | nil =>
      obtain ⟨fuel, rfl⟩ : ∃ k, fuel = k + 2 := ⟨fuel - 2, by simp at enough; omega⟩
      have unescaped : quote ≠ '\\' := by rcases mark with rfl | rfl <;> decide
      rw [List.nil_append, plain unescaped, if_pos rfl]
      rfl
  | plain other unescaped _ ih =>
      rw [List.length_cons] at enough
      obtain ⟨fuel, rfl⟩ : ∃ k, fuel = k + 1 := ⟨fuel - 1, by omega⟩
      rw [ownEscapes_cons unescaped] at own
      rw [List.cons_append, plain unescaped, if_neg other, ih own (by omega),
        withoutBackslashes_cons unescaped]
      rfl
  | @escape c cs _ _ ih =>
      rw [List.length_cons, List.length_cons] at enough
      obtain ⟨fuel, rfl⟩ : ∃ k, fuel = k + 1 := ⟨fuel - 1, by omega⟩
      obtain ⟨own, rest⟩ := own
      have read := readEscape_of_own mark own (cs ++ [quote])
      have joined := @ih rest fuel (by omega)
      simp only [List.cons_append, Literal.joinPieces, read, withoutBackslashes,
        Option.bind_eq_bind, Option.bind_some, joined]
      rfl

/-- A literal whose backslashes only keep characters as they are denotes what is left without
them. -/
theorem text?_of_ownEscapes (quoted : Quoted quote inside) (own : OwnEscapes quote inside)
    (mark : quote = '\'' ∨ quote = '"') :
    Literal.text? (quote :: inside ++ [quote]) =
      some (String.ofList (withoutBackslashes inside)) := by
  have plain : (quote == 'r' || quote == 'R') = false := by rcases mark with rfl | rfl <;> rfl
  have opens : (quote == '\'' || quote == '"') = true := by rcases mark with rfl | rfl <;> rfl
  have pieces : Literal.joinPieces (some quote) (quote :: inside ++ [quote]).length
      (inside ++ [quote]) = some (withoutBackslashes inside) :=
    joinPieces_of_ownEscapes quoted own mark (by simp)
  rw [List.cons_append] at pieces ⊢
  rw [Literal.text?, plain]
  simp only [Bool.false_eq_true, if_false, Literal.joinPieces, opens, if_true, pieces,
    Option.map_some]

end Quoted

/-! ## Text literals -/

section Literals

variable {quote : Char} {cs : List Char}

/-- Behind the character of an escape there are digits at most. -/
theorem exists_of_escapeLength (found : escapeLength cs ≠ 0) :
    ∃ c digits rest, cs = c :: digits ++ rest ∧ escapeLength cs = 1 + digits.length ∧ c ≠ '\n' ∧
      ∀ d ∈ digits, isHexDigit d = true := by
  cases cs with
  | nil => exact absurd rfl found
  | cons c cs =>
      have sameLine : c ≠ '\n' := by
        rintro rfl
        exact found rfl
      generalize length : escapeLength (c :: cs) = n at found ⊢
      have counted {k : Nat} {p : Char → Bool} (digit : ∀ d, p d = true → isHexDigit d = true)
          (length : (if Lexeme.allOf k p cs then k + 1 else 0) = n) :
          ∃ d digits rest, c :: cs = d :: digits ++ rest ∧ n = 1 + digits.length ∧ d ≠ '\n' ∧
            ∀ d ∈ digits, isHexDigit d = true := by
        have all : Lexeme.allOf k p cs = true := by
          refine Decidable.byContradiction fun none => found ?_
          rw [← length, if_neg none]
        obtain ⟨long, each⟩ := Bool.and_eq_true_iff.mp all
        refine ⟨c, cs.take k, cs.drop k, by rw [List.cons_append, List.take_append_drop], ?_,
          sameLine, fun d member => digit d (List.all_eq_true.mp each d member)⟩
        rw [← length, if_pos all, beq_iff_eq.mp long, Nat.add_comm]
      have octal (d : Char) (between : (decide ('0' ≤ d) && decide (d ≤ '7')) = true) :
          isHexDigit d = true := by
        have range : '0' ≤ d ∧ d ≤ '7' := by simpa using between
        have digit : Text.isDigit d = true := by
          simpa [Text.isDigit] using ⟨range.1, Char.le_trans range.2 (by decide)⟩
        simp [isHexDigit, Text.hexValue?, digit]
      rw [escapeLength] at length
      split at length
      case isTrue => exact ⟨c, [], cs, rfl, length.symm, sameLine, List.forall_mem_nil _⟩
      split at length
      case isTrue => exact counted (fun _ => id) length
      split at length
      case isTrue => exact counted (fun _ => id) length
      split at length
      case isTrue => exact counted (fun _ => id) length
      split at length
      case isTrue => exact counted octal length
      case isFalse => exact absurd length.symm found

/-- Characters that are no quotes and no backslashes go on with a text in quotes. -/
theorem Quoted.append {plain : List Char} (quoted : Quoted quote cs)
    (each : ∀ c ∈ plain, c ≠ quote ∧ c ≠ '\\') : Quoted quote (plain ++ cs) := by
  induction plain with
  | nil => exact quoted
  | cons c plain ih =>
      obtain ⟨⟨other, unescaped⟩, each⟩ := List.forall_mem_cons.mp each
      exact .plain other unescaped (ih each)

/-- What is found to be the rest of a literal is a text in quotes with the closing one. -/
theorem quoted_of_lineLength (mark : quote = '\'' ∨ quote = '"') {fuel : Nat}
    (found : lineLength false quote fuel cs ≠ 0) :
    ∃ inside rest, cs = inside ++ quote :: rest ∧
      lineLength false quote fuel cs = inside.length + 1 ∧ Quoted quote inside := by
  induction fuel generalizing cs with
  | zero => exact absurd rfl found
  | succ fuel ih =>
      cases cs with
      | nil => exact absurd rfl found
      | cons c cs =>
          rw [Lexeme.lineLength_cons] at found ⊢
          split at found
          case isTrue closes =>
              rw [if_pos closes]
              exact ⟨[], cs, by rw [closes, List.nil_append], rfl, .nil⟩
          split at found
          case isTrue => exact absurd rfl found
          case isFalse opens sameLine =>
              rw [if_neg opens, if_neg sameLine]
              obtain ⟨step, more⟩ := Lexeme.ne_zero_of_stepThen found
              obtain ⟨inside, rest, behind, length, quoted⟩ := ih more
              rw [Lexeme.stepThen, if_neg step, if_neg more, length]
              by_cases escaped : c = '\\'
              · have step? : stepLength false (c :: cs) =
                    if escapeLength cs = 0 then 0 else 1 + escapeLength cs := by
                  rw [stepLength, escaped]
                  rfl
                have escapes : escapeLength cs ≠ 0 := by
                  intro none
                  rw [step?, if_pos none] at step
                  exact step rfl
                rw [step?, if_neg escapes] at behind ⊢
                obtain ⟨d, digits, others, rfl, length, notBreak, hex⟩ :=
                  exists_of_escapeLength escapes
                have tail : others = inside ++ quote :: rest := by
                  have same := behind
                  rw [length, Nat.add_comm 1 (1 + digits.length), List.drop_succ_cons] at same
                  have size : 1 + digits.length = (d :: digits).length := by simp [Nat.add_comm]
                  rw [size, List.drop_left] at same
                  exact same
                refine ⟨c :: d :: (digits ++ inside), rest, ?_, ?_, ?_⟩
                · simp [tail]
                · rw [length]
                  simp
                  omega
                · rw [escaped]
                  refine .escape notBreak (quoted.append fun e member => ?_)
                  have rest := Lexeme.isNameRest_of_isHexDigit (hex e member)
                  refine ⟨?_, ?_⟩
                  · rintro rfl
                    rcases mark with rfl | rfl <;> exact absurd rest (by decide)
                  · rintro rfl
                    exact absurd rest (by decide)
              · have step? : stepLength false (c :: cs) = 1 := by
                  simp [stepLength, escaped]
                rw [step?, List.drop_succ_cons, List.drop_zero] at behind
                rw [step?]
                refine ⟨c :: inside, rest, by rw [behind, List.cons_append], ?_,
                  .plain opens escaped quoted⟩
                rw [List.length_cons]
                omega

/-- A literal that starts with a quote starts with three of them, or is one in single quotes. -/
theorem textLength_cases (mark : quote = '\'' ∨ quote = '"')
    (found : Lexeme.textLength (quote :: cs) ≠ 0) :
    ([quote, quote, quote] <+: quote :: cs ∧ 3 ≤ Lexeme.textLength (quote :: cs)) ∨
      (lineLength false quote (quote :: cs).length cs ≠ 0 ∧
        Lexeme.textLength (quote :: cs) = 1 + lineLength false quote (quote :: cs).length cs) := by
  have unraw : (quote == 'r' || quote == 'R') = false := by rcases mark with rfl | rfl <;> rfl
  have opens : (quote == '\'' || quote == '"') = true := by rcases mark with rfl | rfl <;> rfl
  rw [Lexeme.textLength, unraw, if_neg (by decide), Lexeme.quotedLength, if_pos opens] at found ⊢
  dsimp only at found ⊢
  by_cases triple : [quote, quote, quote].isPrefixOf (quote :: cs) = true
  · rw [if_pos triple] at found ⊢
    split at found
    case isTrue block =>
        rw [if_pos block]
        exact .inl ⟨List.isPrefixOf_iff_prefix.mp triple, by omega⟩
    case isFalse noBlock =>
        rw [if_neg noBlock]
        split at found
        case isTrue => exact absurd rfl found
        case isFalse line => exact .inr ⟨line, by rw [if_neg line]⟩
  · rw [if_neg triple, if_neg (by decide)] at found ⊢
    split at found
    case isTrue => exact absurd rfl found
    case isFalse line => exact .inr ⟨line, by rw [if_neg line]⟩

end Literals

/-- Whether a lexeme is a text literal in single or double quotes, neither raw nor in three of
them. -/
def IsPlainText (l : Lexeme) : Prop :=
  l.kind = .text ∧ ∃ quote, (quote = '\'' ∨ quote = '"') ∧ [quote] <+: l.chars ∧
    ¬ [quote, quote, quote] <+: l.chars

/-- What stands between the quotes of a plain literal. -/
theorem quoted_of_next {l : Lexeme} {rest : List Char}
    (next : Lexeme.next (l.chars ++ rest) = some (l, rest)) (plain : IsPlainText l) :
    ∃ quote inside, (quote = '\'' ∨ quote = '"') ∧ l.chars = quote :: inside ++ [quote] ∧
      Quoted quote inside := by
  obtain ⟨text, quote, mark, ⟨cs, chars⟩, single⟩ := plain
  obtain ⟨found, cut, -⟩ := Lexeme.text_of_next next text
  rw [← chars, List.singleton_append, List.cons_append] at found cut
  rcases textLength_cases mark found with ⟨triple, long⟩ | ⟨line, length⟩
  · refine absurd (chars ▸ ?_) single
    rw [List.singleton_append, cut]
    exact List.prefix_take_iff.mpr ⟨triple, long⟩
  · obtain ⟨inside, more, parts, size, quoted⟩ := quoted_of_lineLength mark line
    refine ⟨quote, inside, mark, ?_, quoted⟩
    have start : (quote :: inside ++ [quote]).length = 1 + (inside.length + 1) := by
      simp [Nat.add_comm]
    have whole : quote :: (cs ++ rest) = (quote :: inside ++ [quote]) ++ more := by simp [parts]
    rw [length, size, ← start, whole, List.take_left] at cut
    rw [← chars, List.singleton_append, cut]

end QualityGate.Quantifier
