import QualityGate.Expression.Parser
import QualityGate.Proofs.Expression.Lexeme
import QualityGate.Proofs.Text.Character

/-!
# The tokens of a text

`Lexeme.tokens?` cuts a text into lexemes and drops blanks and comments. A lexeme is never empty, so
the lexemes of a text are the next one and those of the text behind it (`split?_of_next`). From this
follow the rules for the texts that other modules put together from signs, names and blanks.
-/

namespace QualityGate.Expression.Lexeme

/-! ## Cutting -/

/-- Fuel does not matter where there is enough of it. -/
theorem splitAll_fuel {fuel more : Nat} {cs : List Char} (enough : cs.length ≤ fuel)
    (enough' : cs.length ≤ more) : splitAll fuel cs = splitAll more cs := by
  induction fuel generalizing more cs with
  | zero =>
      obtain rfl : cs = [] := List.eq_nil_of_length_eq_zero (by omega)
      rw [splitAll, splitAll]
  | succ fuel ih =>
      match cs, more with
      | [], _ => rw [splitAll, splitAll]
      | c :: cs, more + 1 =>
          simp only [splitAll]
          cases h : next (c :: cs) with
          | none => rfl
          | some cut =>
              have shorter := length_lt_of_next h
              simp only [List.length_cons] at shorter enough enough'
              simp only [Option.bind_eq_bind, Option.bind_some]
              rw [@ih more _ (by omega) (by omega)]

/-- The lexemes of a text are the next one and those of the text behind it. -/
theorem split?_of_next {cs : List Char} {l : Lexeme} {rest : List Char}
    (h : next cs = some (l, rest)) : split? cs = (split? rest).map (l :: ·) := by
  match cs with
  | [] => cases h
  | c :: cs =>
      have shorter := length_lt_of_next h
      simp only [List.length_cons] at shorter
      simp only [split?, List.length_cons, splitAll, h, Option.bind_eq_bind, Option.bind_some]
      rw [splitAll_fuel (by omega) (Nat.le_refl rest.length)]
      cases splitAll rest.length rest <;> rfl

/-! ## Tokens -/

/-- The lexemes of a text that mean something. -/
def tokens? (cs : List Char) : Option (List Lexeme) := (split? cs).map (·.filter isToken)

@[simp] theorem tokens?_nil : tokens? [] = some [] := rfl

/-- Where no lexeme starts, the text has no tokens. -/
theorem tokens?_eq_none_of_next {c : Char} {cs : List Char} (none : next (c :: cs) = none) :
    tokens? (c :: cs) = .none := by
  simp [tokens?, split?, splitAll, none]

/-- A token comes before the tokens of the text behind it. -/
theorem tokens?_of_next {cs : List Char} {l : Lexeme} {rest : List Char}
    (h : next cs = some (l, rest)) (token : isToken l = true) :
    tokens? cs = (tokens? rest).map (l :: ·) := by
  rw [tokens?, tokens?, split?_of_next h]
  cases split? rest <;> simp [token]

/-- What is no token is passed over. -/
theorem tokens?_of_next_skip {cs : List Char} {l : Lexeme} {rest : List Char}
    (h : next cs = some (l, rest)) (skip : isToken l = false) : tokens? cs = tokens? rest := by
  rw [tokens?, tokens?, split?_of_next h]
  cases split? rest <;> simp [skip]

/-- A run of blanks is passed over. -/
theorem tokens?_dropWhile_isBlank (cs : List Char) :
    tokens? (cs.dropWhile isBlank) = tokens? cs := by
  cases cs with
  | nil => rfl
  | cons c cs =>
      by_cases blank : isBlank c = true
      · refine (tokens?_of_next_skip (l := ⟨.blank, (c :: cs).takeWhile isBlank⟩) ?_ rfl).symm
        rw [next, if_pos blank, cut_takeWhile]
      · rw [List.dropWhile_cons_of_neg blank]

theorem tokens?_blank {c : Char} {cs : List Char} (blank : isBlank c = true) :
    tokens? (c :: cs) = tokens? cs := by
  rw [← tokens?_dropWhile_isBlank, List.dropWhile_cons_of_pos blank, tokens?_dropWhile_isBlank]

/-- A blank that is none of expressions starts no lexeme. -/
theorem next_of_foreign {c : Char} (blank : Text.isBlank c = true)
    (foreign : isBlank c = false) (cs : List Char) : next (c :: cs) = none := by
  have other {d : Char} (visible : Text.isBlank d = false) : c ≠ d :=
    Text.ne_of_isBlank blank visible
  have noName : Text.isNameStart c = false ∧ Text.isDigit c = false := by
    simpa [Text.isNameRest] using Text.isNameRest_eq_false_of_isBlank blank
  have noSingle : isSingle c = false := by
    refine Bool.eq_false_iff.mpr fun single => ?_
    have visible : ['<', '>', '[', ']', '\x7b', '\x7d', '(', ')', '.', ',', '-', '!', '?', ':', '+',
      '*', '/', '%'].all (fun d => !Text.isBlank d) = true := rfl
    have own := List.all_eq_true.mp visible c (List.contains_iff_mem.mp single)
    rw [blank] at own
    cases own
  have noPair (d : Char) : isPair c d = false := by
    simp [isPair, other (d := '=') rfl, other (d := '!') rfl, other (d := '<') rfl,
      other (d := '>') rfl, other (d := '&') rfl, other (d := '|') rfl]
  have noSign : signLength (c :: cs) = 0 := by
    cases cs with
    | nil => simp [signLength, noSingle]
    | cons d cs => simp [signLength, noSingle, noPair]
  have noText : textLength (c :: cs) = 0 := by
    simp [textLength, quotedLength, other (d := 'r') rfl, other (d := 'R') rfl,
      other (d := '\'') rfl, other (d := '"') rfl]
  have noBytes : bytesLength (c :: cs) = 0 := by
    simp [bytesLength, other (d := 'b') rfl, other (d := 'B') rfl]
  have noQuoted : quotedNameLength (c :: cs) = 0 := by
    unfold quotedNameLength
    split
    case h_1 rest eq => exact absurd (List.cons.inj eq).1 (other rfl)
    case h_2 => rfl
  simp [next, foreign, noName, noText, noBytes, noQuoted, noSign, (other rfl : c ≠ '.'),
    (other rfl : c ≠ '/').symm]

/-! ## Tokens that texts are put together from -/

/-- A parenthesis or a comma is the next lexeme by itself. -/
theorem next_separator {c : Char} (cs : List Char) (separator : c ∈ ['(', ')', ',']) :
    next (c :: cs) = some (⟨.sign, [c]⟩, cs) := by
  have : c = '(' ∨ c = ')' ∨ c = ',' := by simpa using separator
  rcases this with rfl | rfl | rfl <;> cases cs <;>
    simp [next, isBlank, Text.isDigit, textLength, bytesLength, quotedLength, Text.isNameStart,
      Text.isLetter, quotedNameLength, signLength, isSingle, isPair, cut]

theorem tokens?_separator {c : Char} (cs : List Char) (separator : c ∈ ['(', ')', ',']) :
    tokens? (c :: cs) = (tokens? cs).map (⟨.sign, [c]⟩ :: ·) :=
  tokens?_of_next (next_separator cs separator) rfl

/-- The sign of negations is a token by itself, unless it begins a comparison. -/
theorem tokens?_negation {cs : List Char} (alone : ∀ c ∈ cs.head?, c ≠ '=') :
    tokens? ('!' :: cs) = (tokens? cs).map (⟨.sign, ['!']⟩ :: ·) := by
  refine tokens?_of_next ?_ rfl
  cases cs with
  | nil => rfl
  | cons c cs =>
      have other := alone c rfl
      simp [next, isBlank, Text.isDigit, textLength, bytesLength, quotedLength, Text.isNameStart,
        Text.isLetter, quotedNameLength, signLength, isSingle, isPair, cut, other]

/-- So is the sign of a connective. -/
theorem tokens?_connective {c : Char} (cs : List Char) (connective : c = '&' ∨ c = '|') :
    tokens? (c :: c :: cs) = (tokens? cs).map (⟨.sign, [c, c]⟩ :: ·) := by
  refine tokens?_of_next ?_ rfl
  rcases connective with rfl | rfl <;>
    simp [next, isBlank, Text.isDigit, textLength, bytesLength, quotedLength, Text.isNameStart,
      Text.isLetter, quotedNameLength, signLength, isPair, cut]

/-- Whether a name may end before the text: it goes on neither with a name nor with a quote, which
could make the name the mark of a literal. -/
def EndsName (cs : List Char) : Prop :=
  ∀ c ∈ cs.head?, Text.isNameRest c = false ∧ c ≠ '\'' ∧ c ≠ '"'

theorem not_quote_of_isNameRest {c : Char} (rest : Text.isNameRest c = true) :
    c ≠ '\'' ∧ c ≠ '"' := by
  constructor <;> rintro rfl <;> exact absurd rest (by decide)

/-- Neither a name nor what ends it starts with a quote. -/
theorem quotedLength_of_name (raw : Bool) {cs rest : List Char}
    (name : ∀ c ∈ cs, Text.isNameRest c = true) (ends : EndsName rest) :
    quotedLength raw (cs ++ rest) = 0 := by
  have unquoted : ∀ c ∈ (cs ++ rest).head?, c ≠ '\'' ∧ c ≠ '"' := by
    cases cs with
    | nil => exact fun c head => (ends c head).2
    | cons d ds =>
        rintro c ⟨⟩
        exact not_quote_of_isNameRest (name d List.mem_cons_self)
  cases h : cs ++ rest with
  | nil => rfl
  | cons c ds =>
      obtain ⟨single, double⟩ := unquoted c (by simp [h])
      simp [quotedLength, single, double]

theorem textLength_of_name {cs rest : List Char} (name : ∀ c ∈ cs, Text.isNameRest c = true)
    (ends : EndsName rest) : textLength (cs ++ rest) = 0 := by
  cases cs with
  | nil =>
      -- What ends a name is no mark of a raw literal either: that would go on with the name.
      cases rest with
      | nil => rfl
      | cons c ds =>
          have marks : (c == 'r' || c == 'R') = false := by
            refine Bool.eq_false_iff.mpr fun mark => ?_
            have : c = 'r' ∨ c = 'R' := by simpa using mark
            rcases this with rfl | rfl <;> exact absurd (ends _ rfl).1 (by decide)
          rw [List.nil_append, textLength, marks]
          exact quotedLength_of_name false (List.forall_mem_nil _) ends
  | cons c ds =>
      have raw := quotedLength_of_name true (fun d h => name d (.tail c h)) ends
      have plain := quotedLength_of_name false name ends
      rw [List.cons_append] at plain ⊢
      rw [textLength, raw, plain]
      simp

theorem bytesLength_of_name {c : Char} {cs rest : List Char}
    (name : ∀ c ∈ cs, Text.isNameRest c = true) (ends : EndsName rest) :
    bytesLength (c :: cs ++ rest) = 0 := by
  rw [List.cons_append, bytesLength, textLength_of_name name ends]
  simp

theorem eq_of_isBlank {c : Char} (blank : isBlank c = true) :
    c = ' ' ∨ c = '\t' ∨ c = '\n' ∨ c = '\r' ∨ c = '\x0c' := by
  simpa [isBlank, or_assoc] using blank

/-- What starts a name starts no blank, no comment and no number. -/
theorem isNameStart_only {c : Char} (start : Text.isNameStart c = true) :
    isBlank c = false ∧ Text.isDigit c = false ∧ c ≠ '/' ∧ c ≠ '.' := by
  have letter : ('a' ≤ c ∧ c ≤ 'z') ∨ ('A' ≤ c ∧ c ≤ 'Z') ∨ c = '_' := by
    simpa [Text.isNameStart, Text.isLetter, or_assoc] using start
  refine ⟨?_, ?_, ?_, ?_⟩
  · refine Bool.eq_false_iff.mpr fun blank => ?_
    rcases eq_of_isBlank blank with rfl | rfl | rfl | rfl | rfl <;>
      exact absurd start (by decide)
  · refine Bool.eq_false_iff.mpr fun digit => ?_
    have between : '0' ≤ c ∧ c ≤ '9' := by simpa [Text.isDigit] using digit
    rcases letter with letter | letter | rfl
    · exact absurd (Char.le_trans letter.1 between.2) (by decide)
    · exact absurd (Char.le_trans letter.1 between.2) (by decide)
    · exact absurd between (by decide)
  · rintro rfl
    exact absurd start (by decide)
  · rintro rfl
    exact absurd start (by decide)

/-- The point before a name is a token by itself. -/
theorem tokens?_point {c : Char} (start : Text.isNameStart c = true) (cs : List Char) :
    tokens? ('.' :: c :: cs) = (tokens? (c :: cs)).map (⟨.sign, ['.']⟩ :: ·) := by
  refine tokens?_of_next ?_ rfl
  have noDigit : (c :: cs).takeWhile Text.isDigit = [] :=
    List.takeWhile_cons_of_neg (by simp [(isNameStart_only start).2.1])
  simp [next, isBlank, Text.isDigit, fractionLength, digitsLength, noDigit, textLength, bytesLength,
    quotedLength, Text.isNameStart, Text.isLetter, quotedNameLength, signLength, isSingle, isPair,
    cut]

/-- A name is the next lexeme where it ends. -/
theorem next_name {c : Char} {cs rest : List Char} (start : Text.isNameStart c = true)
    (name : ∀ c ∈ cs, Text.isNameRest c = true) (ends : EndsName rest) :
    next (c :: cs ++ rest) = some (⟨.name, c :: cs⟩, rest) := by
  obtain ⟨blank, digit, slash, point⟩ := isNameStart_only start
  have own : Text.isNameRest c = true := by simp [Text.isNameRest, start]
  have noText := textLength_of_name (List.forall_mem_cons.mpr ⟨own, name⟩) ends
  have noBytes := bytesLength_of_name (c := c) name ends
  have run : (cs ++ rest).takeWhile Text.isNameRest = cs := by
    rw [List.takeWhile_append_of_pos name]
    cases rest with
    | nil => simp
    | cons d ds => simp [(ends d rfl).1]
  rw [List.cons_append] at noText noBytes ⊢
  simp [next, blank, digit, Ne.symm slash, point, noText, noBytes, start, run, cut, Nat.add_comm 1]

theorem tokens?_name {c : Char} {cs rest : List Char} (start : Text.isNameStart c = true)
    (name : ∀ c ∈ cs, Text.isNameRest c = true) (ends : EndsName rest) :
    tokens? (c :: cs ++ rest) = (tokens? rest).map (⟨.name, c :: cs⟩ :: ·) :=
  tokens?_of_next (next_name start name ends) rfl

/-! ## Gaps -/

/-- What may stand between two tokens: blanks, and comments with the line breaks that end them. -/
inductive Gap : List Char → Prop where
  | none : Gap []
  | blank {c : Char} {cs : List Char} (blank : isBlank c = true) (rest : Gap cs) : Gap (c :: cs)
  | comment {line cs : List Char} (within : '\n' ∉ line) (rest : Gap cs) :
    Gap ('/' :: '/' :: line ++ '\n' :: cs)

/-- A comment goes on to the end of its line. -/
theorem tokens?_comment {line cs : List Char} (within : '\n' ∉ line) :
    tokens? ('/' :: '/' :: line ++ '\n' :: cs) = tokens? ('\n' :: cs) := by
  have passes : ∀ c ∈ '/' :: '/' :: line, (c != '\n') = true := by
    intro c member
    rw [List.mem_cons, List.mem_cons] at member
    rcases member with rfl | rfl | member
    · rfl
    · rfl
    · exact bne_iff_ne.mpr fun same => within (same ▸ member)
  refine tokens?_of_next_skip (l := ⟨.comment, '/' :: '/' :: line⟩) ?_ rfl
  have run : ('/' :: '/' :: line ++ '\n' :: cs).takeWhile (· != '\n') = '/' :: '/' :: line := by
    rw [List.takeWhile_append_of_pos passes]
    simp
  have start : next ('/' :: '/' :: line ++ '\n' :: cs) =
      some (cut .comment (('/' :: '/' :: line ++ '\n' :: cs).takeWhile (· != '\n')).length
        ('/' :: '/' :: line ++ '\n' :: cs)) := rfl
  rw [start, run, cut, List.take_left, List.drop_left]

/-- A gap is passed over. -/
theorem tokens?_gap {gap rest : List Char} (h : Gap gap) :
    tokens? (gap ++ rest) = tokens? rest := by
  induction h with
  | none => rfl
  | blank blank _ ih => rw [List.cons_append, tokens?_blank blank, ih]
  | @comment line cs within _ ih =>
      have shape : '/' :: '/' :: line ++ '\n' :: cs ++ rest =
          '/' :: '/' :: line ++ '\n' :: (cs ++ rest) := by simp
      rw [shape, tokens?_comment within, tokens?_blank rfl, ih]

/-- Blanks are a gap. -/
theorem Gap.of_blanks {gap : List Char} (blanks : ∀ c ∈ gap, isBlank c = true) : Gap gap := by
  induction gap with
  | nil => exact .none
  | cons c gap ih =>
      obtain ⟨blank, blanks⟩ := List.forall_mem_cons.mp blanks
      exact .blank blank (ih blanks)

/-- A name may end before a gap. -/
theorem EndsName.gap {gap rest : List Char} (h : Gap gap) (ends : EndsName rest) :
    EndsName (gap ++ rest) := by
  cases h with
  | none => exact ends
  | blank blank _ =>
      rintro _ ⟨⟩
      rcases eq_of_isBlank blank with rfl | rfl | rfl | rfl | rfl <;> decide
  | comment _ _ =>
      rintro _ ⟨⟩
      decide

/-! ## Texts that are cut by themselves -/

/-- Whether a text is cut into the given tokens before whatever may end a name. -/
def CutsInto (cs : List Char) (ls : List Lexeme) : Prop :=
  ∀ rest, EndsName rest → tokens? (cs ++ rest) = (tokens? rest).map (ls ++ ·)

theorem CutsInto.tokens? {cs : List Char} {ls : List Lexeme} (h : CutsInto cs ls) :
    tokens? cs = some ls := by
  have alone := h [] (by simp [EndsName])
  simpa using alone

theorem cutsInto_name {c : Char} {cs : List Char} (start : Text.isNameStart c = true)
    (name : ∀ c ∈ cs, Text.isNameRest c = true) : CutsInto (c :: cs) [⟨.name, c :: cs⟩] :=
  fun _ ends => tokens?_name start name ends

/-- The call of a function without arguments, with any gaps between its tokens. -/
theorem cutsInto_emptyCall {f : Char} {fs gap inside : List Char}
    (start : Text.isNameStart f = true) (name : ∀ c ∈ fs, Text.isNameRest c = true)
    (between : Gap gap) (empty : Gap inside) :
    CutsInto (f :: fs ++ gap ++ '(' :: inside ++ [')']) [⟨.name, f :: fs⟩, sign "(", sign ")"] := by
  intro rest ends
  have opens : EndsName ('(' :: (inside ++ ')' :: rest)) := by
    rintro _ ⟨⟩
    decide
  have shape : f :: fs ++ gap ++ '(' :: inside ++ [')'] ++ rest =
      f :: fs ++ (gap ++ '(' :: (inside ++ ')' :: rest)) := by simp
  rw [shape, tokens?_name start name (opens.gap between), tokens?_gap between,
    tokens?_separator _ (by decide), tokens?_gap empty, tokens?_separator _ (by decide)]
  cases Lexeme.tokens? rest <;> rfl

theorem CutsInto.group {cs : List Char} {ls : List Lexeme} (h : CutsInto cs ls) :
    CutsInto ('(' :: cs ++ [')']) (sign "(" :: ls ++ [sign ")"]) := by
  intro rest ends
  have inner := h (')' :: rest) (by simp [EndsName, Text.isNameRest, Text.isNameStart,
    Text.isLetter, Text.isDigit])
  have shape : '(' :: cs ++ [')'] ++ rest = '(' :: (cs ++ ')' :: rest) := by simp
  rw [shape, tokens?_separator _ (by decide), inner, tokens?_separator _ (by decide)]
  cases Lexeme.tokens? rest <;> simp [sign]

theorem CutsInto.negation {gap cs : List Char} {ls : List Lexeme} (between : Gap gap)
    (h : CutsInto cs ls) :
    CutsInto ('!' :: gap ++ '(' :: cs ++ [')']) (sign "!" :: sign "(" :: ls ++ [sign ")"]) := by
  intro rest ends
  have shape : '!' :: gap ++ '(' :: cs ++ [')'] ++ rest =
      '!' :: (gap ++ ('(' :: cs ++ [')'] ++ rest)) := by simp
  have alone : ∀ c ∈ (gap ++ ('(' :: cs ++ [')'] ++ rest)).head?, c ≠ '=' := by
    cases between with
    | none =>
        rintro _ ⟨⟩
        decide
    | blank blank _ =>
        rintro _ ⟨⟩
        rcases eq_of_isBlank blank with rfl | rfl | rfl | rfl | rfl <;> decide
    | comment _ _ =>
        rintro _ ⟨⟩
        decide
  rw [shape, tokens?_negation alone, tokens?_gap between, h.group rest ends]
  cases Lexeme.tokens? rest <;> rfl

theorem CutsInto.gap_before {gap cs : List Char} {ls : List Lexeme} (gaps : Gap gap)
    (h : CutsInto cs ls) : CutsInto (gap ++ cs) ls := by
  intro rest ends
  rw [List.append_assoc, tokens?_gap gaps, h rest ends]

theorem CutsInto.gap_behind {gap cs : List Char} {ls : List Lexeme} (gaps : Gap gap)
    (h : CutsInto cs ls) : CutsInto (cs ++ gap) ls := by
  intro rest ends
  rw [List.append_assoc, h _ (ends.gap gaps), tokens?_gap gaps]

theorem CutsInto.connective {c : Char} {cs ds : List Char} {ls ks : List Lexeme}
    (connective : c = '&' ∨ c = '|') (left : CutsInto cs ls) (right : CutsInto ds ks) :
    CutsInto (cs ++ c :: c :: ds) (ls ++ ⟨.sign, [c, c]⟩ :: ks) := by
  intro rest ends
  have ends' : EndsName (c :: c :: (ds ++ rest)) := by
    rintro _ ⟨⟩
    rcases connective with rfl | rfl <;> decide
  have shape : cs ++ c :: c :: ds ++ rest = cs ++ c :: c :: (ds ++ rest) := by simp
  rw [shape, left _ ends', tokens?_connective _ connective, right rest ends]
  cases Lexeme.tokens? rest <;> simp

end QualityGate.Expression.Lexeme
