import QualityGate.Proofs.Expression.Token

/-!
# The lexemes of any text

`Lexeme.split?` cuts a text only if it is a row of lexemes. Here every text has lexemes: a character
at which none starts stands for itself, as a sign (`lexemes`). So it can be said of any text what
stands outside of its literals and comments. A row of lexemes is cut as by `split?`
(`lexemes_of_split?`).

Each lexeme is the first one of the text from its place on, and the others follow from what is
behind it (`lexemes_at`). Every place within a text is within one of its lexemes
(`exists_at_of_charsOf`).
-/

namespace QualityGate.Expression.Lexeme

/-- The first lexeme of a text that starts with the given character, and the text behind it. -/
def cutFirst (c : Char) (cs : List Char) : Lexeme × List Char :=
  (next (c :: cs)).getD (⟨.sign, [c]⟩, cs)

/-- The lexemes of a text. The bound is at least its length. -/
def lexemesFrom : Nat → List Char → List Lexeme
  | bound + 1, c :: cs => (cutFirst c cs).1 :: lexemesFrom bound (cutFirst c cs).2
  | _, _ => []

/-- The lexemes of a text. -/
def lexemes (cs : List Char) : List Lexeme := lexemesFrom cs.length cs

/-- The text of lexemes. -/
def charsOf (ls : List Lexeme) : List Char := ls.flatMap chars

/-- The lexemes that mean something. -/
def tokensOf (ls : List Lexeme) : List Lexeme := ls.filter isToken

/-- The tokens of a text. -/
def tokens (cs : List Char) : List Lexeme := tokensOf (lexemes cs)

@[simp] theorem charsOf_nil : charsOf [] = [] := rfl

@[simp] theorem charsOf_cons (l : Lexeme) (ls : List Lexeme) :
    charsOf (l :: ls) = l.chars ++ charsOf ls := List.flatMap_cons

@[simp] theorem charsOf_append (ls ks : List Lexeme) :
    charsOf (ls ++ ks) = charsOf ls ++ charsOf ks := List.flatMap_append

@[simp] theorem tokensOf_append (ls ks : List Lexeme) :
    tokensOf (ls ++ ks) = tokensOf ls ++ tokensOf ks := List.filter_append ..

/-! ## The first lexeme -/

section First

variable {c : Char} {cs rest : List Char} {l : Lexeme}

/-- The first lexeme is the next one, or else a character that stands for itself. -/
theorem cutFirst_cases (c : Char) (cs : List Char) :
    next (c :: cs) = some (cutFirst c cs) ∨ cutFirst c cs = (⟨.sign, [c]⟩, cs) := by
  rw [cutFirst]
  cases next (c :: cs) with
  | none => exact .inr rfl
  | some cut => exact .inl rfl

theorem cutFirst_of_next (h : next (c :: cs) = some (l, rest)) : cutFirst c cs = (l, rest) := by
  rw [cutFirst, h]
  rfl

theorem append_cutFirst (c : Char) (cs : List Char) :
    (cutFirst c cs).1.chars ++ (cutFirst c cs).2 = c :: cs := by
  rcases cutFirst_cases c cs with next | alone
  · exact append_of_next next
  · rw [alone]
    rfl

theorem length_cutFirst_le (c : Char) (cs : List Char) : (cutFirst c cs).2.length ≤ cs.length := by
  rcases cutFirst_cases c cs with next | alone
  · have shorter : (cutFirst c cs).2.length < (c :: cs).length := length_lt_of_next next
    exact Nat.le_of_lt_succ shorter
  · exact Nat.le_of_eq (by rw [alone])

/-- The first lexeme starts with the first character. -/
theorem exists_chars_cutFirst (c : Char) (cs : List Char) :
    ∃ ds, (cutFirst c cs).1.chars = c :: ds := by
  have parts := append_cutFirst c cs
  have shorter := length_cutFirst_le c cs
  cases chars : (cutFirst c cs).1.chars with
  | nil =>
      rw [chars, List.nil_append] at parts
      rw [parts, List.length_cons] at shorter
      omega
  | cons d ds =>
      rw [chars] at parts
      exact ⟨ds, by rw [(List.cons.inj parts).1]⟩

end First

/-! ## All lexemes -/

@[simp] theorem lexemes_nil : lexemes [] = [] := rfl

theorem lexemesFrom_bound {bound more : Nat} {cs : List Char} (enough : cs.length ≤ bound)
    (enough' : cs.length ≤ more) : lexemesFrom bound cs = lexemesFrom more cs := by
  induction bound generalizing more cs with
  | zero =>
      obtain rfl : cs = [] := List.eq_nil_of_length_eq_zero (by omega)
      cases more <;> rfl
  | succ bound ih =>
      match cs, more with
      | [], 0 => rfl
      | [], more + 1 => rfl
      | c :: cs, more + 1 =>
          have shorter := length_cutFirst_le c cs
          rw [List.length_cons] at enough enough'
          rw [lexemesFrom, lexemesFrom, @ih more _ (by omega) (by omega)]

/-- The lexemes of a text are the first one and those of the text behind it. -/
theorem lexemes_cons (c : Char) (cs : List Char) :
    lexemes (c :: cs) = (cutFirst c cs).1 :: lexemes (cutFirst c cs).2 := by
  rw [lexemes, List.length_cons, lexemesFrom,
    lexemesFrom_bound (length_cutFirst_le c cs) (Nat.le_refl _)]
  rfl

theorem lexemes_of_next {c : Char} {cs rest : List Char} {l : Lexeme}
    (h : next (c :: cs) = some (l, rest)) : lexemes (c :: cs) = l :: lexemes rest := by
  rw [lexemes_cons, cutFirst_of_next h]

/-- The lexemes of a text make it up. -/
theorem charsOf_lexemes (cs : List Char) : charsOf (lexemes cs) = cs := by
  induction h : cs.length using Nat.strongRecOn generalizing cs with
  | ind n ih =>
      cases cs with
      | nil => rfl
      | cons c cs =>
          have shorter := length_cutFirst_le c cs
          rw [List.length_cons] at h
          rw [lexemes_cons, charsOf_cons, ih _ (by omega) _ rfl, append_cutFirst]

/-- A row of lexemes has those lexemes. -/
theorem lexemes_of_split? {cs : List Char} {ls : List Lexeme} (h : split? cs = some ls) :
    lexemes cs = ls := by
  induction length : cs.length using Nat.strongRecOn generalizing cs ls with
  | ind n ih =>
      cases cs with
      | nil =>
          cases h
          rfl
      | cons c cs =>
          cases cut : next (c :: cs) with
          | none => simp [split?, splitAll, cut] at h
          | some parts =>
              obtain ⟨l, rest⟩ := parts
              rw [split?_of_next cut] at h
              obtain ⟨others, behind, rfl⟩ := Option.map_eq_some_iff.mp h
              have shorter := length_lt_of_next cut
              rw [lexemes_of_next cut, ih _ (by omega) behind rfl]

/-! ## Places -/

section Places

variable {cs : List Char} {before after : List Lexeme} {l : Lexeme}

/-- The lexemes behind a place are those of the text behind it. -/
theorem lexemes_behind (h : lexemes cs = before ++ after) :
    lexemes (charsOf after) = after ∧ charsOf before ++ charsOf after = cs := by
  induction before generalizing cs with
  | nil =>
      rw [List.nil_append] at h
      rw [← h, charsOf_lexemes]
      exact ⟨rfl, rfl⟩
  | cons k before ih =>
      cases cs with
      | nil => cases h
      | cons c cs =>
          rw [lexemes_cons] at h
          obtain ⟨own, behind⟩ := List.cons.inj h
          obtain ⟨same, parts⟩ := ih behind
          refine ⟨same, ?_⟩
          rw [charsOf_cons, List.append_assoc, parts, ← own, append_cutFirst]

/-- A lexeme is the first one of the text from its place on. -/
theorem lexemes_at (h : lexemes cs = before ++ l :: after) :
    ∃ c ds, l.chars ++ charsOf after = c :: ds ∧ cutFirst c ds = (l, charsOf after) := by
  obtain ⟨same, -⟩ := lexemes_behind h
  rw [charsOf_cons] at same
  cases text : l.chars ++ charsOf after with
  | nil =>
      rw [text] at same
      cases same
  | cons c ds =>
      rw [text, lexemes_cons] at same
      obtain ⟨own, behind⟩ := List.cons.inj same
      refine ⟨c, ds, rfl, Prod.ext own ?_⟩
      rw [← behind, charsOf_lexemes]

/-- A lexeme is the next one of the text from its place on, or else a character that stands for
itself. -/
theorem next_at (h : lexemes cs = before ++ l :: after) :
    next (l.chars ++ charsOf after) = some (l, charsOf after) ∨ ∃ c, l = ⟨.sign, [c]⟩ := by
  obtain ⟨c, ds, text, cuts⟩ := lexemes_at h
  rw [text]
  rcases cutFirst_cases c ds with next | alone
  · exact .inl (next.trans (congrArg some cuts))
  · exact .inr ⟨c, congrArg Prod.fst (cuts.symm.trans alone)⟩

theorem exists_next_of_split? (h : split? cs = some (l :: after)) :
    ∃ rest, next cs = some (l, rest) ∧ split? rest = some after := by
  cases cut : next cs with
  | none =>
      cases cs with
      | nil => cases h
      | cons c cs => simp [split?, splitAll, cut] at h
  | some parts =>
      obtain ⟨k, rest⟩ := parts
      rw [split?_of_next cut] at h
      obtain ⟨others, behind, same⟩ := Option.map_eq_some_iff.mp h
      cases same
      exact ⟨rest, rfl, behind⟩

/-- In a row of lexemes each is the next one of the text from its place on. -/
theorem next_of_split? (h : split? cs = some (before ++ l :: after)) :
    next (l.chars ++ charsOf after) = some (l, charsOf after) := by
  induction before generalizing cs with
  | nil =>
      obtain ⟨rest, cut, behind⟩ := exists_next_of_split? h
      have text := charsOf_lexemes rest
      rw [lexemes_of_split? behind] at text
      rw [text, append_of_next cut, cut]
  | cons k before ih =>
      obtain ⟨rest, -, behind⟩ := exists_next_of_split? h
      exact ih behind

/-- Every place of a text is within one of its lexemes. -/
theorem exists_at_of_charsOf {ls : List Lexeme} {a b : List Char} (parts : charsOf ls = a ++ b)
    (nonempty : b ≠ []) : ∃ before l after x y, ls = before ++ l :: after ∧ l.chars = x ++ y ∧
      y ≠ [] ∧ a = charsOf before ++ x ∧ b = y ++ charsOf after := by
  induction ls generalizing a with
  | nil => exact absurd (List.append_eq_nil_iff.mp parts.symm).2 nonempty
  | cons l ls ih =>
      have behind {a' : List Char} (parts : charsOf ls = a' ++ b) (same : a = l.chars ++ a') :
          ∃ before k after x y, l :: ls = before ++ k :: after ∧ k.chars = x ++ y ∧ y ≠ [] ∧
            a = charsOf before ++ x ∧ b = y ++ charsOf after := by
        obtain ⟨before, k, after, x, y, rfl, chars, inside, rfl, rfl⟩ := ih parts
        exact ⟨l :: before, k, after, x, y, rfl, chars, inside, by simp [same], rfl⟩
      rw [charsOf_cons] at parts
      rcases List.append_eq_append_iff.mp parts with ⟨a', rfl, rest⟩ | ⟨y, chars, rest⟩
      · exact behind rest rfl
      · cases y with
        | nil => exact @behind [] rest.symm (by rw [chars, List.append_nil, List.append_nil])
        | cons c y => exact ⟨[], l, ls, a, c :: y, rfl, chars, List.cons_ne_nil c y, rfl, rest⟩

end Places

/-! ## Tokens -/

/-- Blanks of expressions are passed over. -/
theorem tokens_blank {c : Char} (blank : isBlank c = true) (cs : List Char) :
    tokens (c :: cs) = tokens cs := by
  have run {d : Char} (ds : List Char) (blank : isBlank d = true) :
      tokens (d :: ds) = tokens (ds.dropWhile isBlank) := by
    have cut : next (d :: ds) =
        some (⟨.blank, d :: ds.takeWhile isBlank⟩, ds.dropWhile isBlank) := by
      have cuts := cut_takeWhile .blank isBlank (d :: ds)
      rw [List.takeWhile_cons_of_pos blank, List.dropWhile_cons_of_pos blank] at cuts
      rw [next, if_pos blank, List.takeWhile_cons_of_pos blank, cuts]
    rw [tokens, lexemes_of_next cut]
    rfl
  rw [run cs blank]
  cases cs with
  | nil => rfl
  | cons d ds =>
      by_cases more : isBlank d = true
      · rw [List.dropWhile_cons_of_pos more, run ds more]
      · rw [List.dropWhile_cons_of_neg more]

end QualityGate.Expression.Lexeme
