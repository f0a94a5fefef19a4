import QualityGate.Proofs.Check.Validation
import QualityGate.Proofs.Expression.Lexemes

/-!
# Which conditions are taken for quantified ones

A condition calls a quantifier if its name is a token of the condition that follows no point, and
the next token is an opening parenthesis (`Calls`). `isQuantified` knows nothing of tokens: it looks
for the name, for the character before it, and for a parenthesis behind blanks. Such a place is
where a name stands, or else within a literal or a comment (`looks_within`), for no other lexeme has
room for it. So a condition is taken for a quantified one exactly if it has a call without comments
before its parenthesis that touches no word, or something in it is mistaken for a call (`Mistaken`):
what stands in a literal or comment, a name that is apart from the point before it, or one before a
blank that is none of expressions.
-/

namespace QualityGate.Quantifier

open Expression (Lexeme word sign)
open Expression.Lexeme (lexemes charsOf tokensOf tokens)

/-! ## What looks like a call -/

/-- Whether a text goes on with an opening parenthesis, perhaps behind blanks. -/
def Opens (cs : List Char) : Prop :=
  ∃ blanks rest, cs = blanks ++ '(' :: rest ∧ ∀ c ∈ blanks, Text.isBlank c = true

/-- Whether the name of a quantifier may stand behind a text: it ends neither with a point nor with
a word. -/
def MayFollow (cs : List Char) : Prop := ∀ c ∈ cs.getLast?, isBoundary c = true

/-- Whether a text looks like the call of a quantifier, and so does what is before it. -/
def LooksLikeCall (before cs : List Char) : Prop :=
  MayFollow before ∧
    ∃ (q : Quantifier) (after : List Char), cs = q.name.toList ++ after ∧ Opens after

section Texts

variable {c : Char} {cs rest : List Char}

/-- Blanks make no difference to whether a text goes on with a parenthesis. -/
theorem opens_append_iff {blanks : List Char} (blank : ∀ c ∈ blanks, Text.isBlank c = true) :
    Opens (blanks ++ cs) ↔ Opens cs := by
  constructor
  · rintro ⟨others, rest, same, blank'⟩
    rcases List.append_eq_append_iff.mp same with ⟨more, rfl, eq⟩ | ⟨more, rfl, eq⟩
    · exact ⟨more, rest, eq, fun c member => blank' c (List.mem_append_right _ member)⟩
    · cases more with
      | nil => exact ⟨[], rest, eq.symm, List.forall_mem_nil _⟩
      | cons c more =>
          obtain rfl := (List.cons.inj eq).1
          exact absurd (blank '(' (by simp)) (by decide)
  · rintro ⟨others, rest, rfl, blank'⟩
    exact ⟨blanks ++ others, rest, by simp, List.forall_mem_append.mpr ⟨blank, blank'⟩⟩

/-- What goes on with a visible character goes on with a parenthesis only if this is one. -/
theorem eq_of_opens (visible : Text.isBlank c = false) (opens : Opens (c :: cs)) : c = '(' := by
  obtain ⟨blanks, rest, same, blank⟩ := opens
  cases blanks with
  | nil => exact (List.cons.inj same).1
  | cons d blanks =>
      obtain rfl := (List.cons.inj same).1
      rw [blank c List.mem_cons_self] at visible
      cases visible

theorem skipName?_eq_some_iff :
    skipName? cs = some rest ↔ ∃ q : Quantifier, cs = q.name.toList ++ rest := by
  constructor
  · intro skips
    unfold skipName? at skips
    split at skips
    · exact ⟨.all, by rw [← Option.some.inj skips]; rfl⟩
    · exact ⟨.any, by rw [← Option.some.inj skips]; rfl⟩
    · exact ⟨.one, by rw [← Option.some.inj skips]; rfl⟩
    · exact ⟨.none, by rw [← Option.some.inj skips]; rfl⟩
    · cases skips
  · rintro ⟨q, rfl⟩
    cases q <;> rfl

theorem skipCall?_eq_some_iff :
    skipCall? cs = some rest ↔ ∃ (q : Quantifier) (blanks : List Char),
      cs = q.name.toList ++ (blanks ++ '(' :: rest) ∧ ∀ c ∈ blanks, Text.isBlank c = true := by
  constructor
  · intro skips
    obtain ⟨after, name, opened⟩ := Option.bind_eq_some_iff.mp skips
    obtain ⟨q, rfl⟩ := skipName?_eq_some_iff.mp name
    have parts : after.takeWhile Text.isBlank ++ after.dropWhile Text.isBlank = after :=
      List.takeWhile_append_dropWhile
    split at opened
    case h_1 more behind =>
        cases opened
        rw [behind] at parts
        exact ⟨q, _, by rw [parts], List.all_eq_true.mp List.all_takeWhile⟩
    case h_2 => cases opened
  · rintro ⟨q, blanks, rfl, blank⟩
    have behind : (blanks ++ '(' :: rest).dropWhile Text.isBlank = '(' :: rest := by
      rw [List.dropWhile_append_of_pos blank, List.dropWhile_cons_of_neg (by decide)]
    have skips : skipName? (q.name.toList ++ (blanks ++ '(' :: rest)) = _ :=
      skipName?_eq_some_iff.mpr ⟨q, rfl⟩
    rw [skipCall?, skips, Option.bind_eq_bind, Option.bind_some, behind]
    rfl

theorem isSome_skipCall?_iff : (skipCall? cs).isSome = true ↔
    ∃ (q : Quantifier) (after : List Char), cs = q.name.toList ++ after ∧ Opens after := by
  rw [Option.isSome_iff_exists]
  constructor
  · rintro ⟨rest, skips⟩
    obtain ⟨q, blanks, rfl, blank⟩ := skipCall?_eq_some_iff.mp skips
    exact ⟨q, _, rfl, blanks, rest, rfl, blank⟩
  · rintro ⟨q, after, rfl, blanks, rest, rfl, blank⟩
    exact ⟨rest, skipCall?_eq_some_iff.mpr ⟨q, blanks, rfl, blank⟩⟩

theorem mayFollow_cons :
    MayFollow (c :: cs) ↔ (cs = [] → isBoundary c = true) ∧ MayFollow cs := by
  cases cs with
  | nil => simp [MayFollow]
  | cons d ds => simp [MayFollow, List.getLast?_cons_cons]

/-- A text is searched for a place that looks like a call. -/
theorem callsFrom_iff {boundary : Bool} :
    callsFrom boundary cs = true ↔ ∃ before rest, cs = before ++ rest ∧
      (before = [] → boundary = true) ∧ LooksLikeCall before rest := by
  induction cs generalizing boundary with
  | nil =>
      refine ⟨nofun, ?_⟩
      rintro ⟨before, rest, same, -, -, q, after, rfl, -⟩
      have none := (List.append_eq_nil_iff.mp (List.append_eq_nil_iff.mp same.symm).2).1
      cases q <;> cases none
  | cons c cs ih =>
      rw [callsFrom, Bool.or_eq_true, Bool.and_eq_true, isSome_skipCall?_iff, ih]
      constructor
      · rintro (⟨start, here⟩ | ⟨before, rest, rfl, start, follows, later⟩)
        · exact ⟨[], c :: cs, rfl, fun _ => start, by simp [MayFollow], here⟩
        · exact ⟨c :: before, rest, rfl, nofun, mayFollow_cons.mpr ⟨start, follows⟩, later⟩
      · rintro ⟨before, rest, same, start, follows, looks⟩
        cases before with
        | nil => exact .inl ⟨start rfl, same ▸ looks⟩
        | cons d before =>
            obtain ⟨rfl, rfl⟩ := List.cons.inj same
            obtain ⟨start, follows⟩ := mayFollow_cons.mp follows
            exact .inr ⟨before, rest, rfl, start, follows, looks⟩

end Texts

/-! ## Where it looks like a call -/

/-- Whether the lexeme is a comment, or a literal of a text or of bytes. -/
def IsData (l : Lexeme) : Prop := l.kind = .comment ∨ l.kind = .text ∨ l.kind = .bytes

/-- The name of a quantifier before a parenthesis is the next lexeme. -/
theorem next_of_opens (q : Quantifier) {after : List Char} (opens : Opens after) :
    Lexeme.next (q.name.toList ++ after) = some (word q.name, after) := by
  have ends : Lexeme.EndsName after := by
    obtain ⟨blanks, rest, rfl, blank⟩ := opens
    cases blanks with
    | nil =>
        rintro _ ⟨⟩
        decide
    | cons c blanks =>
        rintro _ ⟨⟩
        have own := blank c List.mem_cons_self
        exact ⟨Text.isNameRest_eq_false_of_isBlank own, Text.ne_of_isBlank own rfl,
          Text.ne_of_isBlank own rfl⟩
  cases q with
  | all => exact Lexeme.next_name (c := 'a') rfl (List.all_eq_true.mp rfl) ends
  | any => exact Lexeme.next_name (c := 'a') rfl (List.all_eq_true.mp rfl) ends
  | one => exact Lexeme.next_name (c := 'o') rfl (List.all_eq_true.mp rfl) ends
  | none => exact Lexeme.next_name (c := 'n') rfl (List.all_eq_true.mp rfl) ends

/-- A name of a quantifier starts with one of three letters. -/
theorem head_name (q : Quantifier) : ∃ c cs, q.name.toList = c :: cs ∧ c ∈ ['a', 'n', 'o'] := by
  cases q with
  | all => exact ⟨_, _, rfl, by decide⟩
  | any => exact ⟨_, _, rfl, by decide⟩
  | one => exact ⟨_, _, rfl, by decide⟩
  | none => exact ⟨_, _, rfl, by decide⟩

/-- No call starts within a name in backquotes: its last backquote would stand before the
parenthesis. -/
theorem not_looks_quotedName {inside x y behind : List Char} (nonempty : y ≠ [])
    (chars : '\x60' :: inside ++ ['\x60'] = x ++ y)
    (quotable : ∀ c ∈ inside, Lexeme.isQuotable c = true) (q : Quantifier) {after : List Char}
    (same : y ++ behind = q.name.toList ++ after) : ¬ Opens after := by
  rintro ⟨blanks, rest, rfl, blank⟩
  have last : '\x60' ∈ y := by
    obtain ⟨front, d, rfl⟩ := (List.eq_nil_or_concat y).resolve_left nonempty
    rw [List.concat_eq_append, ← List.append_assoc] at chars
    rw [List.singleton_inj.mp (List.append_inj' chars rfl).2]
    simp
  have none : '(' ∉ y := by
    intro member
    have within : '(' ∈ '\x60' :: inside ++ ['\x60'] := chars ▸ List.mem_append_right x member
    have own : '(' ∈ inside := by simpa using within
    exact absurd (quotable _ own) (by decide)
  have plain : '\x60' ∉ q.name.toList ++ blanks := by
    intro member
    rcases List.mem_append.mp member with name | gap
    · cases q <;> exact absurd name (by decide)
    · exact absurd (blank _ gap) (by decide)
  rw [← List.append_assoc] at same
  rcases List.append_eq_append_iff.mp same with ⟨more, eq, -⟩ | ⟨more, rfl, eq⟩
  · exact plain (eq ▸ List.mem_append_left more last)
  · cases more with
    | nil => exact plain (by simpa using last)
    | cons c more =>
        obtain rfl := (List.cons.inj eq).1
        exact none (by simp)

section Places

variable {cs : List Char} {before after : List Lexeme} {l : Lexeme}

/-- A place that looks like a call is where the name of a quantifier stands, or else it is within a
literal or a comment. -/
theorem looks_within {x y : List Char} (place : lexemes cs = before ++ l :: after)
    (chars : l.chars = x ++ y) (nonempty : y ≠ [])
    (looks : LooksLikeCall (charsOf before ++ x) (y ++ charsOf after)) :
    IsData l ∨ x = [] ∧ (∃ q : Quantifier, l = word q.name) ∧ Opens (charsOf after) := by
  obtain ⟨follows, q, more, same, opens⟩ := looks
  by_cases start : x = []
  · rw [start, List.nil_append] at chars
    obtain ⟨c, ds, text, cuts⟩ := Lexeme.lexemes_at place
    have next := next_of_opens q opens
    rw [← same, ← chars, text] at next
    obtain ⟨own, behind⟩ := Prod.mk.inj ((Lexeme.cutFirst_of_next next).symm.trans cuts)
    exact .inr ⟨start, ⟨q, own.symm⟩, behind ▸ opens⟩
  · -- The last character before the place is in the lexeme, and so is the first one behind it.
    obtain ⟨front, d, rfl⟩ := (List.eq_nil_or_concat x).resolve_left start
    obtain ⟨c, y, rfl⟩ := List.exists_cons_of_ne_nil nonempty
    have boundary : isBoundary d = true := follows d (by simp)
    obtain ⟨e, es, name, letter⟩ := head_name q
    rw [name] at same
    obtain rfl : c = e := (List.cons.inj same).1
    rcases Lexeme.next_at place with next | ⟨e, rfl⟩
    · have admits := Lexeme.admits_of_next next
      have word (kind : Text.isNameRest d = true) : False := by
        rw [isBoundary, Text.isWordChar_of_isNameRest kind] at boundary
        simp at boundary
      have ofD := admits d (by simp [chars])
      have ofC := admits c (by simp [chars])
      have letters (kind : Expression.LexemeKind) (own : l.kind = kind)
          (none : ['a', 'n', 'o'].any kind.admits = false) : False := by
        rw [own] at ofC
        exact List.any_eq_false.mp none c letter ofC
      cases kind : l.kind with
      | comment => exact .inl (.inl kind)
      | text => exact .inl (.inr (.inl kind))
      | bytes => exact .inl (.inr (.inr kind))
      | blank => exact (letters .blank kind rfl).elim
      | double => exact (letters .double kind rfl).elim
      | sign => exact (letters .sign kind rfl).elim
      | name =>
          rw [kind] at ofD
          exact (word ofD).elim
      | integer =>
          rw [kind] at ofD
          exact (word ofD).elim
      | unsigned =>
          rw [kind] at ofD
          exact (word ofD).elim
      | quotedName =>
          obtain ⟨inside, quoted, quotable⟩ := Lexeme.quotedName_of_next next kind
          have text : c :: y ++ charsOf after = q.name.toList ++ more := name ▸ same
          exact absurd opens
            (not_looks_quotedName nonempty (quoted.symm.trans chars) quotable q text)
    · have length := congrArg List.length chars
      simp only [List.length_append, List.length_cons, List.length_concat, List.length_nil]
        at length
      omega

end Places

/-! ## Calls -/

/-- Whether what stands before the name of a quantifier and behind it makes it a call: no point
comes before it, and a parenthesis comes next. -/
def IsCall (before after : List Lexeme) : Prop :=
  (tokensOf before).getLast? ≠ some (sign ".") ∧ (tokensOf after).head? = some (sign "(")

/-- Whether a name looks like that of a call. -/
def IsSpelled (before after : List Lexeme) : Prop :=
  MayFollow (charsOf before) ∧ Opens (charsOf after)

/-- Whether the name of a call touches neither a point nor a word, and only blanks stand before its
parenthesis. -/
def IsClear (before after : List Lexeme) : Prop :=
  MayFollow (charsOf before) ∧
    ∃ blanks rest, after = blanks ++ sign "(" :: rest ∧ ∀ l ∈ blanks, l.kind = .blank

/-- Whether a name follows a point, perhaps across blanks and comments. -/
def FollowsPoint (before : List Lexeme) : Prop := (tokensOf before).getLast? = some (sign ".")

/-- Whether a blank that is none of expressions stands before a parenthesis. -/
def HasForeignBlank (after : List Lexeme) : Prop :=
  ∃ blanks c more, charsOf after = blanks ++ c :: more ∧
    (∀ d ∈ blanks, Lexeme.isBlank d = true) ∧ Text.isBlank c = true ∧ Lexeme.isBlank c = false

/-- Whether the name of a quantifier stands in a condition between the given lexemes. -/
def Stands (condition : String) (before : List Lexeme) (q : Quantifier) (after : List Lexeme) :
    Prop := lexemes condition.toList = before ++ word q.name :: after

/-- Whether a condition calls a quantifier outside of literals and comments. -/
def Calls (condition : String) : Prop :=
  ∃ before q after, Stands condition before q after ∧ IsCall before after

/-- Whether something within a literal or a comment looks like a call. -/
def Hides (condition : String) : Prop :=
  ∃ before l after x y, lexemes condition.toList = before ++ l :: after ∧ IsData l ∧
    l.chars = x ++ y ∧ y ≠ [] ∧ LooksLikeCall (charsOf before ++ x) (y ++ charsOf after)

/-- Whether something in a condition that is no call looks like one. -/
def Mistaken (condition : String) : Prop :=
  Hides condition ∨ ∃ before q after, Stands condition before q after ∧ IsSpelled before after ∧
    (FollowsPoint before ∨ HasForeignBlank after)

/-- Nothing looks like a call within literals and comments that have none of the letters that names
of quantifiers start with. -/
theorem not_hides_of_letters {condition : String}
    (clean : ∀ l ∈ lexemes condition.toList, IsData l → ∀ c ∈ ['a', 'n', 'o'], c ∉ l.chars) :
    ¬ Hides condition := by
  rintro ⟨before, l, after, x, y, place, data, chars, nonempty, -, q, rest, same, -⟩
  obtain ⟨c, cs, name, first⟩ := head_name q
  obtain ⟨d, ds, rfl⟩ := List.exists_cons_of_ne_nil nonempty
  obtain rfl : d = c := by
    rw [name] at same
    exact (List.cons.inj same).1
  have among : l ∈ lexemes condition.toList := by
    rw [place]
    simp
  exact clean l among data d first (chars ▸ by simp)

/-- A condition is taken for a quantified one exactly if a name in it looks like that of a call, or
something within a literal or a comment does. -/
theorem isQuantified_iff {condition : String} :
    isQuantified condition = true ↔ Hides condition ∨
      ∃ before q after, Stands condition before q after ∧ IsSpelled before after := by
  rw [isQuantified, callsFrom_iff]
  constructor
  · rintro ⟨a, b, same, -, looks⟩
    have nonempty : b ≠ [] := by
      rintro rfl
      obtain ⟨-, q, after, none, -⟩ := looks
      cases q <;> cases none
    rw [← Lexeme.charsOf_lexemes condition.toList] at same
    obtain ⟨before, l, after, x, y, place, chars, inside, rfl, rfl⟩ :=
      Lexeme.exists_at_of_charsOf same nonempty
    rcases looks_within place chars inside looks with data | ⟨rfl, ⟨q, rfl⟩, opens⟩
    · exact .inl ⟨before, l, after, x, y, place, data, chars, inside, looks⟩
    · rw [List.append_nil] at looks
      exact .inr ⟨before, q, after, place, looks.1, opens⟩
  · rintro (⟨before, l, after, x, y, place, -, chars, -, looks⟩ |
      ⟨before, q, after, place, spelled⟩)
    · obtain ⟨-, parts⟩ := Lexeme.lexemes_behind place
      refine ⟨charsOf before ++ x, y ++ charsOf after, ?_, fun _ => rfl, looks⟩
      rw [← parts, Lexeme.charsOf_cons, chars]
      simp
    · obtain ⟨-, parts⟩ := Lexeme.lexemes_behind place
      exact ⟨charsOf before, q.name.toList ++ charsOf after, parts.symm, fun _ => rfl, spelled.1, q,
        charsOf after, rfl, spelled.2⟩

section Stands

variable {cs : List Char} {before after : List Lexeme} {l : Lexeme}

/-- The lexemes that mean nothing are blanks, and comments with a slash at their start. -/
theorem gap_cases (place : lexemes cs = before ++ l :: after) (skip : Lexeme.isToken l = false) :
    (l.kind = .blank ∧ ∀ c ∈ l.chars, Text.isBlank c = true) ∨
      (l.kind = .comment ∧ l.chars.head? = some '/') := by
  rcases Lexeme.next_at place with next | ⟨c, rfl⟩
  · have kind : l.kind = .blank ∨ l.kind = .comment := by
      simpa [Lexeme.isToken, Classical.or_iff_not_imp_left] using skip
    rcases kind with blank | comment
    · refine .inl ⟨blank, fun c member => Text.isBlank_of_isBlank ?_⟩
      have admits := Lexeme.admits_of_next next c member
      rw [blank] at admits
      exact admits
    · exact .inr ⟨comment, Lexeme.head?_of_next_comment next comment⟩
  · cases skip

/-- Before the parenthesis of a call there are only blanks exactly if it looks like one. -/
theorem opens_iff_of_head? (place : lexemes cs = before ++ after)
    (opened : (tokensOf after).head? = some (sign "(")) :
    Opens (charsOf after) ↔
      ∃ blanks rest, after = blanks ++ sign "(" :: rest ∧ ∀ l ∈ blanks, l.kind = .blank := by
  induction after generalizing before with
  | nil => cases opened
  | cons l after ih =>
      by_cases token : Lexeme.isToken l = true
      · obtain rfl : l = sign "(" := by
          rw [tokensOf, List.filter_cons_of_pos token] at opened
          exact Option.some.inj opened
        refine ⟨fun _ => ⟨[], after, rfl, List.forall_mem_nil _⟩, fun _ => ?_⟩
        exact ⟨[], charsOf after, rfl, List.forall_mem_nil _⟩
      · rw [tokensOf, List.filter_cons_of_neg token] at opened
        have behind : lexemes cs = (before ++ [l]) ++ after := by simpa using place
        have later := ih behind opened
        rcases gap_cases place (Bool.eq_false_iff.mpr token) with ⟨kind, blank⟩ | ⟨kind, slash⟩
        · rw [Lexeme.charsOf_cons, opens_append_iff blank, later]
          constructor
          · rintro ⟨blanks, rest, rfl, blanks'⟩
            exact ⟨l :: blanks, rest, rfl, List.forall_mem_cons.mpr ⟨kind, blanks'⟩⟩
          · rintro ⟨blanks, rest, same, blanks'⟩
            cases blanks with
            | nil =>
                obtain ⟨rfl, -⟩ := List.cons.inj same
                cases kind
            | cons k blanks =>
                obtain ⟨-, rfl⟩ := List.cons.inj same
                exact ⟨blanks, rest, rfl, (List.forall_mem_cons.mp blanks').2⟩
        · constructor
          · intro opens
            obtain ⟨ds, chars⟩ := List.head?_eq_some_iff.mp slash
            rw [Lexeme.charsOf_cons, chars, List.cons_append] at opens
            exact absurd (eq_of_opens (by decide) opens) (by decide)
          · rintro ⟨blanks, rest, same, blanks'⟩
            cases blanks with
            | nil =>
                obtain ⟨rfl, -⟩ := List.cons.inj same
                cases kind
            | cons k blanks =>
                obtain ⟨rfl, -⟩ := List.cons.inj same
                have own := blanks' l List.mem_cons_self
                rw [kind] at own
                cases own

/-- A call looks like one exactly if it is clear. -/
theorem isSpelled_iff_isClear (place : lexemes cs = before ++ l :: after)
    (call : IsCall before after) : IsSpelled before after ↔ IsClear before after := by
  have behind : lexemes cs = (before ++ [l]) ++ after := by simpa using place
  exact and_congr_right fun _ => opens_iff_of_head? behind call.2

/-- The next token is no parenthesis exactly if a blank that is none of expressions comes first, for
what looks like a call. -/
theorem head?_ne_iff_of_opens (place : lexemes cs = before ++ after)
    (opens : Opens (charsOf after)) :
    (tokensOf after).head? ≠ some (sign "(") ↔ HasForeignBlank after := by
  obtain ⟨same, -⟩ := Lexeme.lexemes_behind place
  have skips {blanks : List Char} (own : ∀ c ∈ blanks, Lexeme.isBlank c = true) (rest : List Char) :
      tokens (blanks ++ rest) = tokens rest := by
    induction blanks with
    | nil => rfl
    | cons c blanks ih =>
        obtain ⟨blank, own⟩ := List.forall_mem_cons.mp own
        rw [List.cons_append, Lexeme.tokens_blank blank, ih own]
  have tokens : tokensOf after = tokens (charsOf after) := by rw [tokens, same]
  rw [tokens]
  constructor
  · intro other
    obtain ⟨blanks, rest, text, blank⟩ := opens
    by_cases own : ∀ c ∈ blanks, Lexeme.isBlank c = true
    · refine absurd ?_ other
      rw [text, skips own, Lexeme.tokens,
        Lexeme.lexemes_of_next (Lexeme.next_separator rest (by decide))]
      rfl
    · have parts : blanks.takeWhile Lexeme.isBlank ++ blanks.dropWhile Lexeme.isBlank = blanks :=
        List.takeWhile_append_dropWhile
      cases behind : blanks.dropWhile Lexeme.isBlank with
      | nil =>
          rw [behind, List.append_nil] at parts
          exact absurd
            (fun c member => List.all_eq_true.mp List.all_takeWhile c (parts ▸ member)) own
      | cons c more =>
          rw [behind] at parts
          refine ⟨blanks.takeWhile Lexeme.isBlank, c, more ++ '(' :: rest, ?_,
            List.all_eq_true.mp List.all_takeWhile, blank c (by rw [← parts]; simp), ?_⟩
          · have whole := congrArg (· ++ '(' :: rest) parts
            rw [text]
            simpa using whole.symm
          · have head := List.head?_dropWhile_not Lexeme.isBlank blanks
            rw [behind] at head
            simpa using head
  · rintro ⟨blanks, c, more, text, own, blank, foreign⟩ opened
    have cut : Lexeme.cutFirst c more = (⟨.sign, [c]⟩, more) := by
      rw [Lexeme.cutFirst, Lexeme.next_of_foreign blank foreign]
      rfl
    rw [text, skips own, Lexeme.tokens, Lexeme.lexemes_cons, cut] at opened
    have opening : c = '(' := by simpa [tokensOf, Lexeme.isToken, sign] using opened
    rw [opening] at blank
    exact absurd blank (by decide)

end Stands

/-- Whether a condition has a call that touches no word and has only blanks before its
parenthesis. -/
def ClearlyCalls (condition : String) : Prop :=
  ∃ before q after, Stands condition before q after ∧ IsCall before after ∧ IsClear before after

/-- A condition is taken for a quantified one exactly if it has a clear call, or something in it is
mistaken for a call. -/
theorem isQuantified_iff_clearlyCalls {condition : String} :
    isQuantified condition = true ↔ ClearlyCalls condition ∨ Mistaken condition := by
  rw [isQuantified_iff]
  constructor
  · rintro (hides | ⟨before, q, after, place, spelled⟩)
    · exact .inr (.inl hides)
    · by_cases call : IsCall before after
      · exact .inl ⟨before, q, after, place, call, (isSpelled_iff_isClear place call).mp spelled⟩
      · refine .inr (.inr ⟨before, q, after, place, spelled, ?_⟩)
        by_cases point : FollowsPoint before
        · exact .inl point
        · have behind : lexemes condition.toList = (before ++ [word q.name]) ++ after := by
            simpa [Stands] using place
          exact .inr ((head?_ne_iff_of_opens behind spelled.2).mp fun opened =>
            call ⟨point, opened⟩)
  · rintro (⟨before, q, after, place, call, clear⟩ | hides | ⟨before, q, after, place, spelled, -⟩)
    · exact .inr ⟨before, q, after, place, (isSpelled_iff_isClear place call).mpr clear⟩
    · exact .inl hides
    · exact .inr ⟨before, q, after, place, spelled⟩

/-- **A condition is taken for a quantified one exactly if it has a clear call or something in it is
mistaken for a call.** So it is taken for what it is exactly if one of its calls is clear, or it has
calls and mistakes together, or neither. A condition with neither is validated and judged as a plain
one. -/
theorem isQuantified_iff_calls_iff [Readers] (condition : String) :
    (isQuantified condition = true ↔ ClearlyCalls condition ∨ Mistaken condition) ∧
    ((isQuantified condition = true ↔ Calls condition) ↔
      ClearlyCalls condition ∨ (Calls condition ↔ Mistaken condition)) ∧
    (¬ Calls condition → ¬ Mistaken condition →
      ∀ d : CheckDefinition, d.condition = condition →
        (d.validate = .ok () ↔ Path.Compiles d.reference ∧
          (∀ path ∈ d.options.log, Path.Compiles path) ∧ Condition.validate condition = .ok ()) ∧
        ∀ (e : Evaluator) (values : List Json), e.judgeSelected condition values d.options = do
          let j ← e.judge (subjectOf values) condition
          return ⟨j.holds, .none, [⟨.array j.values, some (subjectOf values)⟩]⟩) := by
  have calls : ClearlyCalls condition → Calls condition :=
    fun ⟨before, q, after, place, call, _⟩ => ⟨before, q, after, place, call⟩
  refine ⟨isQuantified_iff_clearlyCalls, ?_, ?_⟩
  · rw [isQuantified_iff_clearlyCalls]
    by_cases clear : ClearlyCalls condition
    · exact iff_of_true (iff_of_true (.inl clear) (calls clear)) (.inl clear)
    · rw [or_iff_right clear, or_iff_right clear]
      exact iff_comm
  · rintro none clean d rfl
    have plain : isQuantified d.condition = false := by
      refine Bool.eq_false_iff.mpr fun quantified => ?_
      rcases isQuantified_iff_clearlyCalls.mp quantified with clear | mistaken
      · exact none (calls clear)
      · exact clean mistaken
    refine ⟨CheckDefinition.validate_plain_eq_ok_iff plain, fun e values => ?_⟩
    rw [Evaluator.judgeSelected, if_neg (by rw [plain]; decide)]

/-- The text in a plain comparison is mistaken for a call, and a call with a comment before its
parenthesis is not found. -/
theorem isQuantified_of_text :
    (isQuantified "$ == 'none ('" = true ∧ ¬ Calls "$ == 'none ('") ∧
      isQuantified "all // of them\n(ref, '$ > 1')" = false ∧
        Calls "all // of them\n(ref, '$ > 1')" := by
  refine ⟨⟨by decide +kernel, ?_⟩, by decide +kernel, ?_⟩
  · rintro ⟨before, q, after, place, -⟩
    have names : ∀ l ∈ lexemes "$ == 'none ('".toList, l.kind ≠ .name := by decide +kernel
    have member : word q.name ∈ lexemes "$ == 'none ('".toList := by
      rw [place]
      simp
    exact names _ member rfl
  · refine ⟨[], .all, (lexemes "all // of them\n(ref, '$ > 1')".toList).tail, ?_, nofun, ?_⟩
    · rw [Stands]
      decide +kernel
    · decide +kernel

end QualityGate.Quantifier
