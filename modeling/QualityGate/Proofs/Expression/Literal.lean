import QualityGate.Proofs.Expression.Token

/-!
# Text literals as tokens

A text literal is a token by itself, whatever its quotes and escapes, unless a quote follows it
(`tokens?_text`). The length of a literal is found by looking at the whole text that starts with it,
so the lemmas before say of every form that it has the same length in a longer text. Only the empty
literal is at risk there: a third quote behind it would open a literal in three quotes.
-/

namespace QualityGate.Expression.Lexeme

variable {cs rest : List Char}

/-! ## Escapes -/

theorem le_length_of_allOf {n : Nat} {p : Char → Bool} (found : allOf n p cs = true) :
    n ≤ cs.length := by
  have all : min n cs.length = n := by simpa using (Bool.and_eq_true_iff.mp found).1
  omega

theorem allOf_append {n : Nat} {p : Char → Bool} (found : allOf n p cs = true) :
    allOf n p (cs ++ rest) = true := by
  have long := le_length_of_allOf found
  rw [allOf, List.take_append_of_le_length long]
  exact found

/-- The characters of an escape by their number are there in a longer text, too. -/
theorem counted_append {n k : Nat} {p : Char → Bool}
    (found : (if allOf n p cs then k else 0) ≠ 0) (rest : List Char) :
    (if allOf n p (cs ++ rest) then k else 0) = (if allOf n p cs then k else 0) ∧
      n ≤ cs.length := by
  have all : allOf n p cs = true := Decidable.byContradiction fun none => found (if_neg none)
  rw [if_pos all, if_pos (allOf_append all)]
  exact ⟨rfl, le_length_of_allOf all⟩

/-- A length by cases is the same in a longer text if each of its cases is. -/
theorem ite_append {c : Prop} [Decidable c] {a a' b b' n : Nat} (yes : a ≠ 0 → a' = a ∧ a ≤ n)
    (no : b ≠ 0 → b' = b ∧ b ≤ n) (found : (if c then a else b) ≠ 0) :
    (if c then a' else b') = (if c then a else b) ∧ (if c then a else b) ≤ n := by
  split at found
  case isTrue holds =>
      rw [if_pos holds, if_pos holds]
      exact yes found
  case isFalse fails =>
      rw [if_neg fails, if_neg fails]
      exact no found

/-- An escape is the same in a longer text. -/
theorem escapeLength_append (found : escapeLength cs ≠ 0) (rest : List Char) :
    escapeLength (cs ++ rest) = escapeLength cs ∧ escapeLength cs ≤ cs.length := by
  cases cs with
  | nil => exact absurd rfl found
  | cons c cs =>
      have counted {n : Nat} {p : Char → Bool} (found : (if allOf n p cs then n + 1 else 0) ≠ 0) :
          (if allOf n p (cs ++ rest) then n + 1 else 0) = (if allOf n p cs then n + 1 else 0) ∧
            (if allOf n p cs then n + 1 else 0) ≤ (c :: cs).length := by
        obtain ⟨same, long⟩ := counted_append found rest
        refine ⟨same, ?_⟩
        rw [List.length_cons]
        split <;> omega
      have plain (_ : 1 ≠ 0) : 1 = 1 ∧ 1 ≤ (c :: cs).length := ⟨rfl, by simp⟩
      rw [escapeLength] at found ⊢
      rw [List.cons_append, escapeLength]
      exact ite_append plain (ite_append counted (ite_append counted (ite_append counted
        (ite_append counted (absurd rfl))))) found

/-! ## What stands between the quotes -/

/-- The length of an escape with its backslash, or of another character, in a literal. -/
def stepLength (raw : Bool) : List Char → Nat
  | [] => 0
  | c :: cs =>
    if !raw && c == '\\' then if escapeLength cs = 0 then 0 else 1 + escapeLength cs else 1

theorem stepLength_append {raw : Bool} (found : stepLength raw cs ≠ 0) (rest : List Char) :
    stepLength raw (cs ++ rest) = stepLength raw cs ∧ stepLength raw cs ≤ cs.length := by
  cases cs with
  | nil => exact absurd rfl found
  | cons c cs =>
      rw [stepLength] at found ⊢
      rw [List.cons_append, stepLength]
      split at found
      case isTrue escape =>
          have escapes : escapeLength cs ≠ 0 := by
            intro none
            exact found (if_pos none)
          obtain ⟨same, long⟩ := escapeLength_append escapes rest
          rw [if_pos escape, if_pos escape, same, if_neg escapes, List.length_cons]
          exact ⟨rfl, by omega⟩
      case isFalse plain =>
          rw [if_neg plain, if_neg plain]
          exact ⟨rfl, by simp⟩

/-- The length of one step and of what is found behind it, or zero if either is missing. -/
def stepThen (raw : Bool) (more : List Char → Nat) (cs : List Char) : Nat :=
  if stepLength raw cs = 0 then 0
  else if more (cs.drop (stepLength raw cs)) = 0 then 0
  else stepLength raw cs + more (cs.drop (stepLength raw cs))

theorem ne_zero_of_stepThen {raw : Bool} {more : List Char → Nat}
    (found : stepThen raw more cs ≠ 0) :
    stepLength raw cs ≠ 0 ∧ more (cs.drop (stepLength raw cs)) ≠ 0 := by
  unfold stepThen at found
  split at found
  case isTrue => exact absurd rfl found
  case isFalse step => exact ⟨step, fun none => found (if_pos none)⟩

/-- A step and what is behind it are the same in a longer text if what is behind it is. -/
theorem stepThen_append {raw : Bool} {more more' : List Char → Nat}
    (found : stepThen raw more cs ≠ 0)
    (later : ∀ ds, more ds ≠ 0 → more' (ds ++ rest) = more ds) :
    stepThen raw more' (cs ++ rest) = stepThen raw more cs := by
  obtain ⟨step, inner⟩ := ne_zero_of_stepThen found
  obtain ⟨same, long⟩ := stepLength_append step rest
  have behind := later _ inner
  rw [← List.drop_append_of_le_length long] at behind
  rw [stepThen, stepThen, same, behind]

section

variable {raw : Bool} {quote : Char} {fuel more : Nat}

/-- The rest of a literal in single quotes, by its first character. -/
theorem lineLength_cons (c : Char) :
    lineLength raw quote (fuel + 1) (c :: cs) =
      if c = quote then 1
      else if c == '\n' || c == '\r' then 0
      else stepThen raw (lineLength raw quote fuel) (c :: cs) := rfl

/-- The rest of a literal in triple quotes, by its first character. -/
theorem blockLength_cons (c : Char) :
    blockLength raw quote (fuel + 1) (c :: cs) =
      if [quote, quote, quote].isPrefixOf (c :: cs) then 3
      else stepThen raw (blockLength raw quote fuel) (c :: cs) := rfl

/-- A literal in single quotes ends at the same place in a longer text. -/
theorem lineLength_append (found : lineLength raw quote fuel cs ≠ 0) (enough : fuel ≤ more) :
    lineLength raw quote more (cs ++ rest) = lineLength raw quote fuel cs := by
  induction fuel generalizing cs more with
  | zero => exact absurd rfl found
  | succ fuel ih =>
      obtain ⟨more, rfl⟩ : ∃ k, more = k + 1 := ⟨more - 1, by omega⟩
      cases cs with
      | nil => exact absurd rfl found
      | cons c cs =>
          rw [List.cons_append, lineLength_cons, lineLength_cons]
          rw [lineLength_cons] at found
          split at found
          case isTrue closes => rw [if_pos closes, if_pos closes]
          case isFalse opens =>
              split at found
              case isTrue => exact absurd rfl found
              case isFalse sameLine =>
                  rw [if_neg opens, if_neg opens, if_neg sameLine, if_neg sameLine]
                  exact stepThen_append found fun ds inner => ih inner (by omega)

theorem three_le_length_of_blockLength (found : blockLength raw quote fuel cs ≠ 0) :
    3 ≤ cs.length := by
  induction fuel generalizing cs with
  | zero => exact absurd rfl found
  | succ fuel ih =>
      cases cs with
      | nil => exact absurd rfl found
      | cons c cs =>
          rw [blockLength_cons] at found
          split at found
          case isTrue closes => exact (List.isPrefixOf_iff_prefix.mp closes).length_le
          case isFalse =>
              have long := ih (ne_zero_of_stepThen found).2
              rw [List.length_drop] at long
              omega

/-- Whether three quotes come next shows in the first three characters. -/
theorem isPrefixOf_append (quote : Char) (long : 3 ≤ cs.length) (rest : List Char) :
    [quote, quote, quote].isPrefixOf (cs ++ rest) = [quote, quote, quote].isPrefixOf cs := by
  match cs, long with
  | a :: b :: c :: cs, _ => simp [List.isPrefixOf]

/-- A literal in triple quotes ends at the same place in a longer text. -/
theorem blockLength_append (found : blockLength raw quote fuel cs ≠ 0) (enough : fuel ≤ more)
    (rest : List Char) :
    blockLength raw quote more (cs ++ rest) = blockLength raw quote fuel cs := by
  induction fuel generalizing cs more with
  | zero => exact absurd rfl found
  | succ fuel ih =>
      obtain ⟨more, rfl⟩ : ∃ k, more = k + 1 := ⟨more - 1, by omega⟩
      have closing := isPrefixOf_append quote (three_le_length_of_blockLength found) rest
      cases cs with
      | nil => exact absurd rfl found
      | cons c cs =>
          rw [List.cons_append] at closing ⊢
          rw [blockLength_cons, blockLength_cons, closing]
          rw [blockLength_cons] at found
          split at found
          case isTrue closes => rw [if_pos closes, if_pos closes]
          case isFalse opens =>
              rw [if_neg opens, if_neg opens]
              exact stepThen_append found fun ds inner => ih inner (by omega)

/-- A step and what is found behind it are within a text. -/
theorem stepThen_le_length {raw : Bool} {more : List Char → Nat}
    (within : ∀ ds, more ds ≤ ds.length) : stepThen raw more cs ≤ cs.length := by
  unfold stepThen
  split
  case isTrue => exact Nat.zero_le _
  case isFalse step =>
      have long := (stepLength_append step []).2
      have behind := within (cs.drop (stepLength raw cs))
      rw [List.length_drop] at behind
      split <;> omega

theorem lineLength_le_length : lineLength raw quote fuel cs ≤ cs.length := by
  induction fuel generalizing cs with
  | zero => exact Nat.zero_le _
  | succ fuel ih =>
      cases cs with
      | nil => exact Nat.le_refl 0
      | cons c cs =>
          rw [lineLength_cons]
          split
          · exact Nat.succ_le_of_lt (Nat.succ_pos _)
          split
          · exact Nat.zero_le _
          · exact stepThen_le_length fun ds => ih

theorem blockLength_le_length : blockLength raw quote fuel cs ≤ cs.length := by
  induction fuel generalizing cs with
  | zero => exact Nat.zero_le _
  | succ fuel ih =>
      cases cs with
      | nil => exact Nat.le_refl 0
      | cons c cs =>
          rw [blockLength_cons]
          split
          case isTrue closes => exact (List.isPrefixOf_iff_prefix.mp closes).length_le
          case isFalse => exact stepThen_le_length fun ds => ih

/-- What starts with three quotes and is a literal as a whole is one in triple quotes: in single
quotes it would be the empty one. -/
theorem blockLength_of_quotedLength (mark : (quote == '\'' || quote == '"') = true)
    (whole : quotedLength raw (quote :: quote :: quote :: cs) =
      (quote :: quote :: quote :: cs).length) :
    blockLength raw quote (quote :: quote :: quote :: cs).length cs ≠ 0 ∧
      blockLength raw quote (quote :: quote :: quote :: cs).length cs = cs.length := by
  have opens : [quote, quote, quote].isPrefixOf (quote :: quote :: quote :: cs) = true := by
    simp [List.isPrefixOf]
  have empty : lineLength raw quote (quote :: quote :: quote :: cs).length
      (quote :: quote :: cs) = 1 := by
    simp [lineLength]
  rw [quotedLength, if_pos mark] at whole
  dsimp only at whole
  rw [if_pos opens, empty, List.drop_succ_cons, List.drop_succ_cons, List.drop_succ_cons,
    List.drop_zero] at whole
  split at whole
  case isTrue block =>
      have length : (quote :: quote :: quote :: cs).length = 3 + cs.length := by
        simp [Nat.add_comm 3]
      exact ⟨block, by omega⟩
  case isFalse => simp at whole

end

/-! ## Literals -/

/-- Whether a text starts with no quote. -/
def StartsUnquoted (cs : List Char) : Prop := ∀ c ∈ cs.head?, c ≠ '\'' ∧ c ≠ '"'

/-- Behind fewer than three quotes there are three of them only if the text goes on with a quote. -/
theorem not_isPrefixOf_append {quote : Char} (mark : quote = '\'' ∨ quote = '"')
    (opens : ¬ [quote, quote, quote].isPrefixOf (quote :: cs)) (unquoted : StartsUnquoted rest) :
    ¬ [quote, quote, quote].isPrefixOf (quote :: cs ++ rest) := by
  have other (c : Char) (head : rest.head? = some c) : quote ≠ c := by
    obtain ⟨single, double⟩ := unquoted c head
    rcases mark with rfl | rfl
    · exact Ne.symm single
    · exact Ne.symm double
  match cs with
  | [] | [_] =>
      cases rest with
      | nil => simp [List.isPrefixOf]
      | cons c rest => simp [List.isPrefixOf, other c rfl]
  | _ :: _ :: _ =>
      rw [isPrefixOf_append quote (by simp)]
      exact opens

/-- What starts with three quotes and is a literal as a whole is one in a longer text. -/
theorem quotedLength_append_block {raw : Bool} {q : Char} (mark : (q == '\'' || q == '"') = true)
    (whole : quotedLength raw (q :: q :: q :: cs) = (q :: q :: q :: cs).length) :
    quotedLength raw (q :: q :: q :: cs ++ rest) = (q :: q :: q :: cs).length := by
  obtain ⟨block, length⟩ := blockLength_of_quotedLength mark whole
  have opens : [q, q, q].isPrefixOf (q :: q :: q :: cs ++ rest) = true := by
    simp [List.isPrefixOf]
  have fuel : (q :: q :: q :: cs).length ≤ (q :: q :: q :: cs ++ rest).length := by simp
  have same := blockLength_append block fuel rest
  rw [length] at block same
  rw [List.cons_append, List.cons_append, List.cons_append] at opens same ⊢
  rw [quotedLength, if_pos mark]
  dsimp only
  rw [if_pos opens, List.drop_succ_cons, List.drop_succ_cons, List.drop_succ_cons, List.drop_zero,
    same, if_pos block]
  simp [Nat.add_comm 3]

/-- What starts with a quote and is a literal as a whole is one in a longer text. -/
theorem quotedLength_append {raw : Bool} (whole : quotedLength raw cs = cs.length)
    (unquoted : StartsUnquoted rest) : quotedLength raw (cs ++ rest) = cs.length := by
  cases cs with
  | nil =>
      cases rest with
      | nil => rfl
      | cons c rest =>
          obtain ⟨single, double⟩ := unquoted c rfl
          simp [quotedLength, single, double]
  | cons q cs =>
      have quote : (q == '\'' || q == '"') = true := by
        refine Decidable.byContradiction fun none => ?_
        rw [quotedLength, if_neg none, List.length_cons] at whole
        omega
      by_cases opens : [q, q, q].isPrefixOf (q :: cs) = true
      · obtain ⟨ds, eq⟩ := List.isPrefixOf_iff_prefix.mp opens
        obtain rfl : q :: q :: ds = cs := (List.cons.inj eq).2
        exact quotedLength_append_block quote whole
      · have mark : q = '\'' ∨ q = '"' := by simpa using quote
        have opens' := not_isPrefixOf_append mark opens unquoted
        rw [quotedLength, if_pos quote, if_neg opens, if_neg (by simp)] at whole
        rw [List.cons_append] at opens' ⊢
        rw [quotedLength, if_pos quote, if_neg opens', if_neg (by simp)]
        have line : lineLength raw q (q :: cs).length cs ≠ 0 := by
          intro none
          rw [if_pos none] at whole
          exact absurd whole (by simp)
        rw [lineLength_append line (by simp)]
        exact whole

/-- A text literal has the same length in a longer text. -/
theorem textLength_append (whole : textLength cs = cs.length) (nonempty : cs ≠ [])
    (unquoted : StartsUnquoted rest) : textLength (cs ++ rest) = cs.length := by
  obtain ⟨c, cs, rfl⟩ := List.exists_cons_of_ne_nil nonempty
  rw [List.cons_append]
  rw [textLength] at whole ⊢
  split at whole
  case isTrue raw =>
      have inner : quotedLength true cs = cs.length := by
        split at whole
        case isTrue => exact absurd whole (by simp)
        case isFalse =>
            rw [List.length_cons] at whole
            omega
      rw [if_pos raw, quotedLength_append inner unquoted]
      rw [inner] at whole
      exact whole
  case isFalse plain =>
      rw [if_neg plain]
      exact quotedLength_append whole unquoted

/-- A literal that starts with a quote is within its text. -/
theorem quotedLength_le_length (raw : Bool) (cs : List Char) : quotedLength raw cs ≤ cs.length := by
  cases cs with
  | nil => exact Nat.le_refl 0
  | cons q cs =>
      have line : lineLength raw q (q :: cs).length cs ≤ cs.length := lineLength_le_length
      have within : (if [q, q, q].isPrefixOf (q :: cs) then
          blockLength raw q (q :: cs).length ((q :: cs).drop 3) else 0) ≤ cs.length + 1 - 3 := by
        rw [← List.length_cons, ← List.length_drop]
        split
        · exact blockLength_le_length
        · exact Nat.zero_le _
      unfold quotedLength
      dsimp only
      generalize (if [q, q, q].isPrefixOf (q :: cs) then
        blockLength raw q (q :: cs).length ((q :: cs).drop 3) else 0) = block at within ⊢
      rw [List.length_cons] at line ⊢
      split
      case isTrue =>
          split
          · omega
          · split <;> omega
      case isFalse => exact Nat.zero_le _

/-- So is a text literal. -/
theorem textLength_le_length (cs : List Char) : textLength cs ≤ cs.length := by
  cases cs with
  | nil => exact Nat.le_refl 0
  | cons c cs =>
      have raw := quotedLength_le_length true cs
      rw [textLength]
      split
      case isTrue =>
          rw [List.length_cons]
          split <;> omega
      case isFalse => exact quotedLength_le_length false (c :: cs)

/-- A text literal starts with a quote or with the mark of raw ones. -/
theorem starts_of_textLength {c : Char} (found : textLength (c :: cs) ≠ 0) :
    c = 'r' ∨ c = 'R' ∨ c = '\'' ∨ c = '"' := by
  rw [textLength] at found
  split at found
  case isTrue raw =>
      rcases (by simpa using raw : c = 'r' ∨ c = 'R') with rfl | rfl
      · exact .inl rfl
      · exact .inr (.inl rfl)
  case isFalse =>
      have quote : (c == '\'' || c == '"') = true := by
        refine Decidable.byContradiction fun none => found ?_
        rw [quotedLength, if_neg none]
      exact .inr (.inr (by simpa using quote))

/-- A text literal is the next lexeme where no quote follows it. -/
theorem next_text (whole : textLength cs = cs.length) (nonempty : cs ≠ [])
    (unquoted : StartsUnquoted rest) : next (cs ++ rest) = some (⟨.text, cs⟩, rest) := by
  have length := textLength_append whole nonempty unquoted
  obtain ⟨c, cs, rfl⟩ := List.exists_cons_of_ne_nil nonempty
  have found : textLength (c :: cs ++ rest) ≠ 0 := by
    rw [length]
    simp
  have others : isBlank c = false ∧ ['/', '/'].isPrefixOf (c :: (cs ++ rest)) = false ∧
      Text.isDigit c = false ∧ (c == '.') = false := by
    rcases starts_of_textLength found with rfl | rfl | rfl | rfl <;>
      exact ⟨rfl, rfl, rfl, rfl⟩
  obtain ⟨blank, comment, digit, point⟩ := others
  rw [List.cons_append] at found length ⊢
  simp only [next, blank, comment, digit, point, Bool.false_and, Bool.false_eq_true, if_false]
  rw [if_pos found, length, cut, ← List.cons_append, List.take_left, List.drop_left]

/-- **A text literal is a token by itself** where no quote follows it. -/
theorem tokens?_text (whole : textLength cs = cs.length) (nonempty : cs ≠ [])
    (unquoted : StartsUnquoted rest) :
    tokens? (cs ++ rest) = (tokens? rest).map (⟨.text, cs⟩ :: ·) :=
  tokens?_of_next (next_text whole nonempty unquoted) rfl

/-- What may end a name does not start with a quote. -/
theorem EndsName.unquoted (ends : EndsName rest) : StartsUnquoted rest := fun c head =>
  (ends c head).2

/-- The call of a function with a name and a text literal, with any gaps between its tokens. -/
theorem cutsInto_call {f x : Char} {fs xs literal g₁ g₂ g₃ g₄ g₅ : List Char}
    (function : Text.isNameStart f = true) (functionRest : ∀ c ∈ fs, Text.isNameRest c = true)
    (name : Text.isNameStart x = true) (nameRest : ∀ c ∈ xs, Text.isNameRest c = true)
    (whole : textLength literal = literal.length) (nonempty : literal ≠ [])
    (gap₁ : Gap g₁) (gap₂ : Gap g₂) (gap₃ : Gap g₃) (gap₄ : Gap g₄) (gap₅ : Gap g₅) :
    CutsInto (f :: fs ++ g₁ ++ '(' :: g₂ ++ x :: xs ++ g₃ ++ ',' :: g₄ ++ literal ++ g₅ ++ [')'])
      [⟨.name, f :: fs⟩, sign "(", ⟨.name, x :: xs⟩, sign ",", ⟨.text, literal⟩, sign ")"] := by
  intro rest ends
  have separates {c : Char} (separator : c ∈ ['(', ')', ',']) (cs : List Char) :
      EndsName (c :: cs) := by
    rintro _ ⟨⟩
    have : c = '(' ∨ c = ')' ∨ c = ',' := by simpa using separator
    rcases this with rfl | rfl | rfl <;> decide
  have closing := (separates (by decide) rest : EndsName (')' :: rest))
  have behindName := separates (c := ',') (by decide) (g₄ ++ (literal ++ (g₅ ++ ')' :: rest)))
  have behindFunction := separates (c := '(') (by decide)
    (g₂ ++ (x :: xs ++ (g₃ ++ ',' :: (g₄ ++ (literal ++ (g₅ ++ ')' :: rest))))))
  calc tokens? (f :: fs ++ g₁ ++ '(' :: g₂ ++ x :: xs ++ g₃ ++ ',' :: g₄ ++ literal ++ g₅ ++ [')']
        ++ rest)
      = tokens? (f :: fs ++ (g₁ ++ '(' :: (g₂ ++ (x :: xs ++ (g₃ ++ ',' :: (g₄ ++ (literal ++
          (g₅ ++ ')' :: rest)))))))) := by simp
    _ = (tokens? rest).map _ := by
      rw [tokens?_name function functionRest (behindFunction.gap gap₁), tokens?_gap gap₁,
        tokens?_separator _ (by decide), tokens?_gap gap₂,
        tokens?_name name nameRest (behindName.gap gap₃), tokens?_gap gap₃,
        tokens?_separator _ (by decide), tokens?_gap gap₄,
        tokens?_text whole nonempty (closing.gap gap₅).unquoted, tokens?_gap gap₅,
        tokens?_separator _ (by decide)]
      cases tokens? rest <;> rfl

end QualityGate.Expression.Lexeme
