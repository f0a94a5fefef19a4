import QualityGate.Proofs.Quantifier.Detection
import QualityGate.Proofs.Quantifier.LiteralArgument
import QualityGate.Proofs.Quantifier.QuotedText

/-!
# Element conditions that are written in a condition

`elementConditions` knows nothing of arguments: behind each place that looks like a call, it goes to
the first comma and reads a text in quotes from there. What it should find are the literal arguments
of the calls (`writtenConditions`).

It finds the written conditions of a regular condition (`Regular`): nothing in it looks like a call
without being one, and each call has either a plain literal behind a first argument without commas
and quantifiers, or no literal there and no quote behind the first comma. The proof follows the
lexemes of the condition (`elementConditionsFrom_of_regular`): within each of them nothing is found,
unless it is the name of a call with a literal, and then reading goes on behind this literal.
-/

namespace QualityGate.Quantifier

open Expression (Lexeme word sign)
open Expression.Lexeme (lexemes charsOf tokensOf tokens StartsUnquoted)

/-! ## Literals without their backslashes -/

/-- What is between the quotes of a literal, without backslashes. -/
def bareText (l : Lexeme) : List Char := withoutBackslashes l.chars.tail.dropLast

section Tokens

variable {l : Lexeme} {ls ks : List Lexeme}

/-- Tokens without names of quantifiers are passed over. -/
theorem literalArgumentsFrom_append (none : ∀ k ∈ ls ++ [l], namesQuantifier k = false)
    (point : Bool) :
    literalArgumentsFrom point (ls ++ l :: ks) = literalArgumentsFrom (l == sign ".") ks := by
  induction ls generalizing point with
  | nil =>
      have own := none l (by simp)
      simp [literalArgumentsFrom, own]
  | cons k ls ih =>
      obtain ⟨own, none⟩ := List.forall_mem_cons.mp none
      simp [literalArgumentsFrom, own, ih none]

/-- A call whose second argument is a literal has it for its literal argument. -/
theorem literalArgument?_of_closed
    (closed : behindArgument 0 (ls ++ sign "," :: l :: ks) = some (l :: ks))
    (text : l.kind = .text) (ends : EndsArgument ks) :
    literalArgument? (sign "(" :: (ls ++ sign "," :: l :: ks)) = some l := by
  have noParenthesis : l ≠ sign "(" := by
    rintro rfl
    cases text
  have alone : ungroup? (l :: ks) = some (l, ks) := by
    rw [ungroup?, if_neg noParenthesis, if_pos text]
  rw [literalArgument?, if_pos rfl, closed, Option.bind_some, literal?, alone, Option.bind_some]
  exact if_pos ends

end Tokens

/-! ## Reading element conditions -/

/-- What stands behind the first comma of a text and the blanks there. -/
def behindComma (cs : List Char) : List Char :=
  (cs.dropWhile (· != ',')).tail.dropWhile Text.isBlank

/-- The text in quotes at the start of a text, and the rest behind it. -/
def readOpened? : List Char → Option (List Char × List Char)
  | '\'' :: rest => readQuoted? '\'' rest
  | '"' :: rest => readQuoted? '"' rest
  | _ => .none

section Reading

variable {cs after xs ys : List Char}

/-- The element condition of what looks like a call is read behind its first comma. -/
theorem readElementCondition?_of_opens (q : Quantifier) (opens : Opens after) :
    readElementCondition? (q.name.toList ++ after) = readOpened? (behindComma after) := by
  obtain ⟨blanks, rest, rfl, blank⟩ := opens
  have skips : skipCall? (q.name.toList ++ (blanks ++ '(' :: rest)) = some rest :=
    skipCall?_eq_some_iff.mpr ⟨q, blanks, rfl, blank⟩
  have passes : ∀ c ∈ blanks ++ ['('], (c != ',') = true := by
    intro c member
    rcases List.mem_append.mp member with gap | paren
    · exact bne_iff_ne.mpr (Text.ne_of_isBlank (blank c gap) rfl)
    · rw [List.mem_singleton.mp paren]
      decide
  have same : behindComma (blanks ++ '(' :: rest) = behindComma rest := by
    have parts : blanks ++ '(' :: rest = (blanks ++ ['(']) ++ rest := by simp
    rw [behindComma, parts, List.dropWhile_append_of_pos passes]
    rfl
  simp only [same, readElementCondition?, skips, Option.bind_eq_bind, Option.bind_some]
  rfl

/-- Element conditions are read only where it looks like a call. -/
theorem opens_of_readElementCondition? (read : readElementCondition? cs ≠ .none) :
    ∃ (q : Quantifier) (after : List Char), cs = q.name.toList ++ after ∧ Opens after := by
  refine isSome_skipCall?_iff.mp (Option.isSome_iff_ne_none.mpr fun none => read ?_)
  rw [readElementCondition?, none]
  rfl

theorem readOpened?_of_unquoted (unquoted : StartsUnquoted cs) : readOpened? cs = .none := by
  unfold readOpened?
  split
  case h_1 => exact absurd rfl (unquoted '\'' rfl).1
  case h_2 => exact absurd rfl (unquoted '"' rfl).2
  case h_3 => rfl

theorem readOpened?_of_quote {quote : Char} (mark : quote = '\'' ∨ quote = '"') (cs : List Char) :
    readOpened? (quote :: cs) = readQuoted? quote cs := by
  rcases mark with rfl | rfl <;> rfl

/-- Whether a name may start behind a text, where the flag says whether it may before it. -/
def boundaryBehind (boundary : Bool) (cs : List Char) : Bool :=
  (cs.getLast?.map isBoundary).getD boundary

/-- A part of a text in which no element condition is found is passed over. -/
theorem elementConditionsFrom_append {bound : Nat} {boundary : Bool}
    (enough : (xs ++ ys).length ≤ bound)
    (unread : ∀ a b, xs = a ++ b → b ≠ [] → (a = [] → boundary = true) → MayFollow a →
      readElementCondition? (b ++ ys) = .none) :
    elementConditionsFrom bound boundary (xs ++ ys) =
      elementConditionsFrom (bound - xs.length) (boundaryBehind boundary xs) ys := by
  induction xs generalizing bound boundary with
  | nil => rfl
  | cons c xs ih =>
      rw [List.cons_append, List.length_cons] at enough
      obtain ⟨bound, rfl⟩ : ∃ k, bound = k + 1 := ⟨bound - 1, by omega⟩
      have here : (if boundary then readElementCondition? (c :: (xs ++ ys)) else .none) =
          .none := by
        split
        case isTrue start =>
            exact unread [] (c :: xs) rfl (List.cons_ne_nil c xs) (fun _ => start)
              (by simp [MayFollow])
        case isFalse => rfl
      have later := @ih bound (isBoundary c) (by omega) fun a b same nonempty start follows =>
        unread (c :: a) b (by rw [same, List.cons_append]) nonempty
          (fun none => absurd none (List.cons_ne_nil c a)) (mayFollow_cons.mpr ⟨start, follows⟩)
      have flag : boundaryBehind boundary (c :: xs) = boundaryBehind (isBoundary c) xs := by
        cases xs with
        | nil => rfl
        | cons d ds =>
            cases last : (d :: ds).getLast? with
            | none => simp at last
            | some e => simp only [boundaryBehind, List.getLast?_cons_cons, last, Option.map_some,
                Option.getD_some]
      rw [List.cons_append, elementConditionsFrom, here, flag, List.length_cons,
        Nat.add_sub_add_right]
      exact later

/-- Behind an element condition that is read, no name may start at once. -/
theorem elementConditionsFrom_of_read {condition rest : List Char} (bound : Nat)
    (read : readElementCondition? cs = some (condition, rest)) :
    elementConditionsFrom (bound + 1) true cs =
      condition :: elementConditionsFrom bound false rest := by
  cases cs with
  | nil => cases read
  | cons c cs => rw [elementConditionsFrom, if_pos rfl, read]

end Reading

/-! ## Regular conditions -/

/-- What stands behind the name of a call whose second argument is a plain literal, where the comma
before it is the first one. -/
structure LiteralCall (after : List Lexeme) (l : Lexeme) (rest : List Lexeme) where
  blanks : List Lexeme
  argument : List Lexeme
  blanks' : List Lexeme
  shape : after = (blanks ++ sign "(" :: argument ++ sign "," :: blanks') ++ l :: rest
  blank : ∀ k ∈ blanks ++ blanks', k.kind = .blank
  simple : ∀ k ∈ argument, ',' ∉ k.chars ∧ namesQuantifier k = false
  closed : behindArgument 0 (tokensOf argument ++ sign "," :: tokensOf (l :: rest)) =
    some (tokensOf (l :: rest))
  plain : IsPlainText l
  ends : EndsArgument (tokensOf rest)

/-- What stands between the name of a call and its literal. -/
def LiteralCall.front {after rest : List Lexeme} {l : Lexeme} (call : LiteralCall after l rest) :
    List Lexeme := call.blanks ++ sign "(" :: call.argument ++ sign "," :: call.blanks'

/-- Whether the second argument of a call can be told by the text behind the name. -/
inductive IsTold (after : List Lexeme) : Prop where
  /-- It is a plain literal behind a simple first argument. -/
  | literal {l : Lexeme} {rest : List Lexeme} (call : LiteralCall after l rest)
  /-- It is no literal, and no quote stands behind the first comma. -/
  | other (none : literalArgument? (tokensOf after) = .none)
      (unquoted : StartsUnquoted (behindComma (charsOf after)))

/-- Whether the calls of a condition, and their second arguments, can be told by its text. -/
structure Regular (condition : String) : Prop where
  unmistaken : ¬ Mistaken condition
  clear : ∀ before q after, Stands condition before q after → IsCall before after →
    IsClear before after
  told : ∀ before q after, Stands condition before q after → IsCall before after → IsTold after

section Regular

variable {condition : String} {before after : List Lexeme} {l : Lexeme}

/-- A condition is regular if its only name of a quantifier stands in a clear call, of which the
second argument can be told. -/
theorem Regular.of_call {q : Quantifier} (place : Stands condition before q after)
    (alone : ∀ k ∈ before ++ after, namesQuantifier k = false) (hides : ¬ Hides condition)
    (call : IsCall before after) (clear : IsClear before after) (told : IsTold after) :
    Regular condition := by
  have names (q' : Quantifier) {ks : List Lexeme} (among : ∀ k ∈ ks, k ∈ before ++ after) :
      word q'.name ∉ ks := by
    intro member
    have none := alone _ (among _ member)
    rw [namesQuantifier_iff.mpr ⟨q', rfl⟩] at none
    cases none
  have only {before' after' : List Lexeme} {q' : Quantifier}
      (place' : Stands condition before' q' after') : before' = before ∧ after' = after := by
    rcases List.append_eq_append_iff.mp (place.symm.trans place') with
      ⟨more, rfl, same⟩ | ⟨more, rfl, same⟩
    · cases more with
      | nil => exact ⟨by simp, (List.cons.inj same).2.symm⟩
      | cons k more =>
          refine absurd ?_ (names q' fun k member => List.mem_append_right before member)
          rw [(List.cons.inj same).2]
          simp
    · cases more with
      | nil => exact ⟨by simp, (List.cons.inj same).2⟩
      | cons k more =>
          obtain ⟨rfl, -⟩ := List.cons.inj same
          exact absurd (by simp) (names q' fun k member => List.mem_append_left after member)
  refine ⟨?_, fun before' q' after' place' _ => ?_, fun before' q' after' place' _ => ?_⟩
  · rintro (hidden | ⟨before', q', after', place', spelled, mistake⟩)
    · exact hides hidden
    · obtain ⟨rfl, rfl⟩ := only place'
      rcases mistake with point | foreign
      · exact call.1 point
      · have behind : lexemes condition.toList = (before' ++ [word q.name]) ++ after' := by
          simpa [Stands] using place
        exact (head?_ne_iff_of_opens behind spelled.2).mpr foreign call.2
  · obtain ⟨rfl, rfl⟩ := only place'
    exact clear
  · obtain ⟨rfl, rfl⟩ := only place'
    exact told

/-- Where a name looks like that of a call, it is one. -/
theorem Regular.isCall (regular : Regular condition) {q : Quantifier}
    (place : Stands condition before q after) (spelled : IsSpelled before after) :
    IsCall before after := by
  have behind : lexemes condition.toList = (before ++ [word q.name]) ++ after := by
    simpa [Stands] using place
  refine ⟨fun point => ?_, Decidable.byContradiction fun other => ?_⟩
  · exact regular.unmistaken (.inr ⟨before, q, after, place, spelled, .inl point⟩)
  · have foreign := (head?_ne_iff_of_opens behind spelled.2).mp other
    exact regular.unmistaken (.inr ⟨before, q, after, place, spelled, .inr foreign⟩)

/-- Element conditions are found only behind the names of calls. -/
theorem Regular.eq_none_of_within (regular : Regular condition)
    (place : lexemes condition.toList = before ++ l :: after) {a b : List Char}
    (chars : l.chars = a ++ b) (nonempty : b ≠ []) (follows : MayFollow (charsOf before ++ a))
    (unread : (∃ q : Quantifier, l = word q.name) → IsCall before after →
      readElementCondition? (l.chars ++ charsOf after) = .none) :
    readElementCondition? (b ++ charsOf after) = .none := by
  refine Decidable.byContradiction fun read => ?_
  obtain ⟨q, more, same, opens⟩ := opens_of_readElementCondition? read
  have looks : LooksLikeCall (charsOf before ++ a) (b ++ charsOf after) :=
    ⟨follows, q, more, same, opens⟩
  rcases looks_within place chars nonempty looks with data | ⟨rfl, ⟨q, rfl⟩, opens⟩
  · exact regular.unmistaken (.inl ⟨before, l, after, a, b, place, data, chars, nonempty, looks⟩)
  · rw [List.append_nil] at follows
    rw [List.nil_append] at chars
    rw [← chars] at read
    exact read (unread ⟨q, rfl⟩ (regular.isCall place ⟨follows, opens⟩))

/-- What stands between the quotes of a plain literal of a condition. -/
theorem quoted_at (place : lexemes condition.toList = before ++ l :: after)
    (plain : IsPlainText l) :
    ∃ quote inside, (quote = '\'' ∨ quote = '"') ∧ l.chars = quote :: inside ++ [quote] ∧
      Quoted quote inside := by
  rcases Lexeme.next_at place with next | ⟨c, rfl⟩
  · exact quoted_of_next next plain
  · cases plain.1

/-- What is read behind the name of a call with a literal. -/
theorem readElementCondition?_of_literal {q : Quantifier} {rest : List Lexeme}
    (place : Stands condition before q after) (call : LiteralCall after l rest) :
    readElementCondition? (charsOf (word q.name :: after)) = some (bareText l, charsOf rest) := by
  obtain ⟨blanks, argument, blanks', shape, blank, simple, -, plain, -⟩ := call
  have split {ks ms : List Lexeme} {k : Lexeme} (parts : after = ks ++ k :: ms) :
      lexemes condition.toList = (before ++ word q.name :: ks) ++ k :: ms := by
    rw [Stands, parts] at place
    simpa using place
  have blanks? {ks : List Lexeme} (each : ∀ k ∈ ks, k ∈ blanks ∨ k ∈ blanks') :
      ∀ c ∈ charsOf ks, Text.isBlank c = true := by
    intro c member
    obtain ⟨k, among, own⟩ := List.mem_flatMap.mp member
    have kind := blank k (List.mem_append.mpr (each k among))
    have within : k ∈ after := by
      rcases each k among with first | second
      · simp [shape, first]
      · simp [shape, second]
    obtain ⟨ks, ms, parts⟩ := List.append_of_mem within
    rcases gap_cases (split parts) (by simp [Lexeme.isToken, kind]) with ⟨-, chars⟩ | ⟨comment, -⟩
    · exact chars c own
    · rw [kind] at comment
      cases comment
  obtain ⟨quote, inside, mark, chars, quoted⟩ := quoted_at (split shape) plain
  have gap := blanks? fun k member => .inl member
  have gap' := blanks? fun k member => .inr member
  have visible : Text.isBlank quote = false := by rcases mark with rfl | rfl <;> rfl
  have unescaped : quote ≠ '\\' := by rcases mark with rfl | rfl <;> decide
  have passes : ∀ c ∈ charsOf blanks ++ '(' :: charsOf argument, (c != ',') = true := by
    intro c member
    rcases List.mem_append.mp member with first | member
    · exact bne_iff_ne.mpr (Text.ne_of_isBlank (gap c first) rfl)
    · rcases List.mem_cons.mp member with rfl | within
      · decide
      · obtain ⟨k, among, own⟩ := List.mem_flatMap.mp within
        exact bne_iff_ne.mpr fun comma => (simple k among).1 (comma ▸ own)
  have text : charsOf after = (charsOf blanks ++ '(' :: charsOf argument) ++
      ',' :: (charsOf blanks' ++ quote :: (inside ++ quote :: charsOf rest)) := by
    simp [shape, sign, chars]
  have opens : Opens (charsOf after) :=
    ⟨charsOf blanks, _, by rw [text, List.append_assoc]; rfl, gap⟩
  have behind : behindComma (charsOf after) = quote :: (inside ++ quote :: charsOf rest) := by
    rw [behindComma, text, List.dropWhile_append_of_pos passes,
      List.dropWhile_cons_of_neg (by simp), List.tail_cons, List.dropWhile_append_of_pos gap',
      List.dropWhile_cons_of_neg (by simp [visible])]
  have bare : bareText l = withoutBackslashes inside := by
    rw [bareText, chars, List.cons_append, List.tail_cons, List.dropLast_concat]
  rw [Lexeme.charsOf_cons]
  refine (readElementCondition?_of_opens q opens).trans ?_
  rw [behind, readOpened?_of_quote mark, readQuoted?_of_quoted quoted unescaped, bare]

end Regular

/-! ## Along the lexemes of a condition -/

theorem mayFollow_append {front cs : List Char} (nonempty : cs ≠ []) :
    MayFollow (front ++ cs) ↔ MayFollow cs := by
  obtain ⟨ds, d, rfl⟩ := (List.eq_nil_or_concat cs).resolve_left nonempty
  simp [MayFollow]

/-- Behind a part of a text, the flag says whether a name may start there. -/
theorem boundaryBehind_iff {boundary : Bool} {cs : List Char} (nonempty : cs ≠ []) :
    boundaryBehind boundary cs = true ↔ MayFollow cs := by
  obtain ⟨ds, d, rfl⟩ := (List.eq_nil_or_concat cs).resolve_left nonempty
  simp [boundaryBehind, MayFollow]

/-- Whether a reader that has come to a place of a condition knows what stands before it: a name may
start there if the reader takes it to, at least if it is that of a call, and the reader knows
whether it would follow a point. -/
structure ReaderAt (condition : String) (before ls : List Lexeme) (boundary point : Bool) :
    Prop where
  place : lexemes condition.toList = before ++ ls
  follows : boundary = true → MayFollow (charsOf before)
  starts : ∀ (q : Quantifier) (after : List Lexeme), ls = word q.name :: after →
    IsCall before after → boundary = true
  points : point = true ↔ FollowsPoint before

/-- Whether tokens follow a point behind a lexeme. -/
def pointBehind (point : Bool) (l : Lexeme) : Bool :=
  if Lexeme.isToken l then l == sign "." else point

/-- A lexeme decides whether what is behind it follows a point, unless it means nothing. -/
theorem followsPoint_append_iff {before : List Lexeme} {l : Lexeme} {point : Bool}
    (points : point = true ↔ FollowsPoint before) :
    pointBehind point l = true ↔ FollowsPoint (before ++ [l]) := by
  unfold pointBehind
  by_cases token : Lexeme.isToken l = true
  · simp [FollowsPoint, tokensOf, token]
  · rw [if_neg token, points]
    simp [FollowsPoint, tokensOf, token]

/-- The literal argument of a call comes before those behind it. -/
theorem literalArgumentsFrom_cons (point : Bool) (l : Lexeme) (after : List Lexeme) :
    literalArgumentsFrom point (tokensOf (l :: after)) =
      (if !point && namesQuantifier l then (literalArgument? (tokensOf after)).toList else []) ++
        literalArgumentsFrom (pointBehind point l) (tokensOf after) := by
  unfold pointBehind
  by_cases token : Lexeme.isToken l = true
  · have cut : tokensOf (l :: after) = l :: tokensOf after := by simp [tokensOf, token]
    rw [if_pos token, cut, literalArgumentsFrom]
  · have cut : tokensOf (l :: after) = tokensOf after := by simp [tokensOf, token]
    have noName : namesQuantifier l = false := by
      refine Bool.eq_false_iff.mpr fun names => token ?_
      obtain ⟨q, rfl⟩ := namesQuantifier_iff.mp names
      rfl
    rw [if_neg token, cut, noName, Bool.and_false, if_neg (by decide), List.nil_append]

namespace ReaderAt

variable {condition : String} {before after : List Lexeme} {l : Lexeme} {boundary point : Bool}

theorem start (condition : String) :
    ReaderAt condition [] (lexemes condition.toList) true false :=
  ⟨rfl, fun _ => by simp [MayFollow], fun _ _ _ _ => rfl, by simp [FollowsPoint, tokensOf]⟩

theorem chars_ne_nil (reader : ReaderAt condition before (l :: after) boundary point) :
    l.chars ≠ [] := by
  obtain ⟨c, ds, text, cuts⟩ := Lexeme.lexemes_at reader.place
  obtain ⟨es, chars⟩ := Lexeme.exists_chars_cutFirst c ds
  rw [cuts] at chars
  rw [chars]
  exact List.cons_ne_nil c es

/-- The reader of a regular condition passes over a lexeme. -/
theorem pass (reader : ReaderAt condition before (l :: after) boundary point)
    (regular : Regular condition) :
    ReaderAt condition (before ++ [l]) after (boundaryBehind boundary l.chars)
      (pointBehind point l) := by
  have place : lexemes condition.toList = (before ++ [l]) ++ after := by simpa using reader.place
  have same : boundaryBehind boundary l.chars = true ↔ MayFollow (charsOf (before ++ [l])) := by
    rw [boundaryBehind_iff reader.chars_ne_nil, Lexeme.charsOf_append, Lexeme.charsOf_cons,
      Lexeme.charsOf_nil, List.append_nil, mayFollow_append reader.chars_ne_nil]
  refine ⟨place, same.mp, ?_, followsPoint_append_iff reader.points⟩
  rintro q rest rfl call
  exact same.mpr (regular.clear _ q rest place call).1

/-- The reader of a condition goes on behind a literal, where no name starts. -/
theorem jump {skipped rest : List Lexeme}
    (reader : ReaderAt condition before (skipped ++ l :: rest) boundary point)
    (text : l.kind = .text)
    (ends : EndsArgument (tokensOf rest)) :
    ReaderAt condition (before ++ skipped ++ [l]) rest false false := by
  refine ⟨by simpa using reader.place, nofun, ?_, ?_⟩
  · rintro q after rfl -
    have head : (tokensOf (word q.name :: after)).head? = some (word q.name) := rfl
    rw [EndsArgument, head] at ends
    rcases ends with comma | closing
    · cases Option.some.inj comma
    · cases Option.some.inj closing
  · have token : Lexeme.isToken l = true := by simp [Lexeme.isToken, text]
    have other : l ≠ sign "." := by
      rintro rfl
      cases text
    simp [FollowsPoint, tokensOf, token, other]

/-- Nothing is found within a lexeme of a regular condition but at the name of a call. -/
theorem unread (reader : ReaderAt condition before (l :: after) boundary point)
    (regular : Regular condition)
    (here : (∃ q : Quantifier, l = word q.name) → IsCall before after →
      readElementCondition? (l.chars ++ charsOf after) = .none)
    (a b : List Char) (chars : l.chars = a ++ b) (nonempty : b ≠ [])
    (start : a = [] → boundary = true) (own : MayFollow a) :
    readElementCondition? (b ++ charsOf after) = .none := by
  refine regular.eq_none_of_within reader.place chars nonempty ?_ here
  by_cases first : a = []
  · rw [first, List.append_nil]
    exact reader.follows (start first)
  · exact (mayFollow_append first).mpr own

/-- A lexeme that is no call with a literal adds no literal argument. -/
theorem literalArgumentsFrom_pass (reader : ReaderAt condition before (l :: after) boundary point)
    (silent : (∃ q : Quantifier, l = word q.name) → ¬ FollowsPoint before →
      literalArgument? (tokensOf after) = .none) :
    literalArgumentsFrom point (tokensOf (l :: after)) =
      literalArgumentsFrom (pointBehind point l) (tokensOf after) := by
  rw [literalArgumentsFrom_cons]
  split
  case isTrue named =>
      obtain ⟨free, names⟩ := Bool.and_eq_true_iff.mp named
      have noPoint : ¬ FollowsPoint before := by
        rw [← reader.points]
        simpa using free
      rw [silent (namesQuantifier_iff.mp names) noPoint]
      rfl
  case isFalse => rfl

end ReaderAt

namespace LiteralCall

variable {after rest : List Lexeme} {l : Lexeme}

/-- The tokens behind the name of a call with a literal. -/
theorem tokensOf_eq (call : LiteralCall after l rest) :
    tokensOf after = sign "(" :: (tokensOf call.argument ++ sign "," :: l :: tokensOf rest) := by
  obtain ⟨blanks, argument, blanks', rfl, blank, -, -, plain, -⟩ := call
  have gap {ks : List Lexeme} (each : ∀ k ∈ ks, k ∈ blanks ++ blanks') : tokensOf ks = [] := by
    refine List.filter_eq_nil_iff.mpr fun k member => ?_
    simp [Lexeme.isToken, blank k (each k member)]
  have token : Lexeme.isToken l = true := by simp [Lexeme.isToken, plain.1]
  have own (ks : List Lexeme) : tokensOf (l :: ks) = l :: tokensOf ks := by simp [tokensOf, token]
  have opening (ks : List Lexeme) : tokensOf (sign "(" :: ks) = sign "(" :: tokensOf ks := rfl
  have comma (ks : List Lexeme) : tokensOf (sign "," :: ks) = sign "," :: tokensOf ks := rfl
  simp only [List.append_assoc, List.cons_append, Lexeme.tokensOf_append, opening, comma, own,
    gap fun k member => List.mem_append_left blanks' member,
    gap fun k member => List.mem_append_right blanks member, List.nil_append]

/-- The literal of a call is its literal argument. -/
theorem literalArgument?_eq (call : LiteralCall after l rest) :
    literalArgument? (tokensOf after) = some l := by
  have token : Lexeme.isToken l = true := by simp [Lexeme.isToken, call.plain.1]
  have cut : tokensOf (l :: rest) = l :: tokensOf rest := by simp [tokensOf, token]
  have closed := call.closed
  rw [cut] at closed
  rw [call.tokensOf_eq]
  exact literalArgument?_of_closed closed call.plain.1 call.ends

/-- It comes first among the literal arguments from there on. -/
theorem literalArgumentsFrom_eq (call : LiteralCall after l rest) (q : Quantifier) :
    literalArgumentsFrom false (tokensOf (word q.name :: after)) =
      l :: literalArgumentsFrom false (tokensOf rest) := by
  have text := call.plain.1
  have names : namesQuantifier (word q.name) = true := namesQuantifier_iff.mpr ⟨q, rfl⟩
  have noPoint : pointBehind false (word q.name) = false := by cases q <;> rfl
  have noPoint' : (l == sign ".") = false := by
    refine beq_eq_false_iff_ne.mpr ?_
    rintro rfl
    cases text
  have quiet : ∀ k ∈ (sign "(" :: (tokensOf call.argument ++ [sign ","])) ++ [l],
      namesQuantifier k = false := by
    intro k member
    have among : k = sign "(" ∨ k ∈ tokensOf call.argument ∨ k = sign "," ∨ k = l := by
      simpa [or_assoc] using member
    rcases among with rfl | within | rfl | rfl
    · rfl
    · exact (call.simple k (List.mem_filter.mp within).1).2
    · rfl
    · simp [namesQuantifier, text]
  have later := @literalArgumentsFrom_append l _ (tokensOf rest) quiet false
  rw [noPoint', List.cons_append, List.append_assoc, List.singleton_append] at later
  rw [literalArgumentsFrom_cons, noPoint, names, call.literalArgument?_eq, call.tokensOf_eq, later]
  rfl

end LiteralCall

section Regular

variable {condition : String} {before ls : List Lexeme} {boundary point : Bool}

/-- **What is found in a regular condition from one of its lexemes on** are its literal arguments
from there on, without their backslashes. -/
theorem elementConditionsFrom_of_regular (regular : Regular condition) {bound : Nat}
    (reader : ReaderAt condition before ls boundary point) (enough : (charsOf ls).length ≤ bound) :
    elementConditionsFrom bound boundary (charsOf ls) =
      (literalArgumentsFrom point (tokensOf ls)).map bareText := by
  induction length : ls.length using Nat.strongRecOn
    generalizing before ls bound boundary point with
  | ind n ih =>
      cases ls with
      | nil => cases bound <;> rfl
      | cons l after =>
          rw [List.length_cons] at length
          rw [Lexeme.charsOf_cons] at enough
          have passes
              (here : (∃ q : Quantifier, l = word q.name) → IsCall before after →
                readElementCondition? (l.chars ++ charsOf after) = .none)
              (silent : (∃ q : Quantifier, l = word q.name) → ¬ FollowsPoint before →
                literalArgument? (tokensOf after) = .none) :
              elementConditionsFrom bound boundary (charsOf (l :: after)) =
                (literalArgumentsFrom point (tokensOf (l :: after))).map bareText := by
            rw [Lexeme.charsOf_cons,
              elementConditionsFrom_append enough (reader.unread regular here),
              reader.literalArgumentsFrom_pass silent]
            rw [List.length_append] at enough
            exact ih _ (by omega) (reader.pass regular) (by omega) rfl
          by_cases call : (∃ q : Quantifier, l = word q.name) ∧ IsCall before after
          · obtain ⟨⟨q, rfl⟩, call⟩ := call
            cases regular.told before q after reader.place call with
            | other none unquoted =>
                refine passes (fun _ call => ?_) fun _ _ => none
                have spelled := (isSpelled_iff_isClear reader.place call).mpr
                  (regular.clear before q after reader.place call)
                exact (readElementCondition?_of_opens q spelled.2).trans
                  (readOpened?_of_unquoted unquoted)
            | @literal l rest literal =>
                have read := readElementCondition?_of_literal reader.place literal
                obtain rfl : boundary = true := reader.starts q _ rfl call
                obtain rfl : point = false := Bool.eq_false_iff.mpr fun point =>
                  call.1 (reader.points.mp point)
                have parts : word q.name :: after = (word q.name :: literal.front) ++ l :: rest :=
                  congrArg (word q.name :: ·) literal.shape
                have jumped := (parts ▸ reader).jump literal.plain.1 literal.ends
                have shorter : (charsOf rest).length + 1 ≤ bound := by
                  have size := congrArg (fun ks => (charsOf ks).length) literal.shape
                  simp [sign] at size enough
                  omega
                have fewer : rest.length < n := by
                  have size := congrArg List.length literal.shape
                  simp at size
                  omega
                obtain ⟨bound, rfl⟩ : ∃ k, bound = k + 1 := ⟨bound - 1, by omega⟩
                rw [elementConditionsFrom_of_read bound read, literal.literalArgumentsFrom_eq q,
                  List.map_cons, ih _ fewer jumped (by omega) rfl]
          · refine passes (fun name isCall => absurd ⟨name, isCall⟩ call) fun name free => ?_
            have closed : (tokensOf after).head? ≠ some (sign "(") := fun opened =>
              call ⟨name, free, opened⟩
            cases tokens : tokensOf after with
            | nil => rfl
            | cons k ks =>
                rw [tokens] at closed
                exact if_neg fun opened => closed (congrArg some opened)

end Regular

/-- The next token of what has a literal argument is a parenthesis. -/
theorem head?_of_literalArgument? {ls : List Lexeme} {l : Lexeme}
    (literal : literalArgument? ls = some l) : ls.head? = some (sign "(") := by
  cases ls with
  | nil => cases literal
  | cons k ls =>
      by_cases opens : k = sign "("
      · exact congrArg some opens
      · rw [literalArgument?, if_neg opens] at literal
        cases literal

/-- The literal arguments are those of the calls. -/
theorem mem_literalArgumentsFrom_iff {before ls : List Lexeme} {l : Lexeme} {point : Bool}
    (points : point = true ↔ FollowsPoint before) :
    l ∈ literalArgumentsFrom point (tokensOf ls) ↔
      ∃ (front : List Lexeme) (q : Quantifier) (after : List Lexeme),
        ls = front ++ word q.name :: after ∧ IsCall (before ++ front) after ∧
          literalArgument? (tokensOf after) = some l := by
  induction ls generalizing before point with
  | nil => simp [literalArgumentsFrom, tokensOf]
  | cons k ls ih =>
      have own : l ∈ (if !point && namesQuantifier k then (literalArgument? (tokensOf ls)).toList
          else []) ↔ ∃ q : Quantifier, k = word q.name ∧ IsCall before ls ∧
            literalArgument? (tokensOf ls) = some l := by
        have free : (!point) = true ↔ ¬ FollowsPoint before := by
          rw [← points]
          simp
        rw [List.mem_ite_nil_right, Bool.and_eq_true, free, namesQuantifier_iff, Option.mem_toList]
        constructor
        · rintro ⟨⟨noPoint, q, name⟩, literal⟩
          exact ⟨q, name, ⟨noPoint, head?_of_literalArgument? literal⟩, literal⟩
        · rintro ⟨q, name, call, literal⟩
          exact ⟨⟨call.1, q, name⟩, literal⟩
      rw [literalArgumentsFrom_cons, List.mem_append, own, ih (followsPoint_append_iff points)]
      constructor
      · rintro (⟨q, rfl, call, literal⟩ | ⟨front, q, after, rfl, call, literal⟩)
        · exact ⟨[], q, ls, rfl, by simpa using call, literal⟩
        · exact ⟨k :: front, q, after, rfl, by simpa using call, literal⟩
      · rintro ⟨front, q, after, same, call, literal⟩
        cases front with
        | nil =>
            obtain ⟨rfl, rfl⟩ := List.cons.inj same
            exact .inl ⟨q, rfl, by simpa using call, literal⟩
        | cons k' front =>
            obtain ⟨rfl, rfl⟩ := List.cons.inj same
            exact .inr ⟨front, q, after, rfl, by simpa using call, literal⟩

theorem mem_literalArguments_iff {condition : String} {l : Lexeme} :
    l ∈ literalArguments condition ↔ ∃ before q after, Stands condition before q after ∧
      IsCall before after ∧ literalArgument? (tokensOf after) = some l :=
  mem_literalArgumentsFrom_iff (ReaderAt.start condition).points

section Conditions

variable {condition : String}

/-- The literal arguments of a regular condition are texts in quotes. -/
theorem Regular.quoted_of_mem (regular : Regular condition) {l : Lexeme}
    (member : l ∈ literalArguments condition) :
    ∃ quote inside, (quote = '\'' ∨ quote = '"') ∧ l.chars = quote :: inside ++ [quote] ∧
      Quoted quote inside := by
  obtain ⟨before, q, after, place, call, literal⟩ := mem_literalArguments_iff.mp member
  cases regular.told before q after place call with
  | other none _ =>
      rw [none] at literal
      cases literal
  | @literal k rest told =>
      rw [told.literalArgument?_eq] at literal
      obtain rfl := Option.some.inj literal
      have behind : lexemes condition.toList = (before ++ word q.name :: told.front) ++
          k :: rest := by
        rw [List.append_assoc]
        exact place.trans (congrArg (before ++ word q.name :: ·) told.shape)
      exact quoted_at behind told.plain

/-- What is found in a regular condition are its literal arguments without their backslashes. -/
theorem elementConditions_eq (regular : Regular condition) :
    elementConditions condition =
      (literalArguments condition).map fun l => String.ofList (bareText l) := by
  have text := Lexeme.charsOf_lexemes condition.toList
  have found := elementConditionsFrom_of_regular regular (ReaderAt.start condition)
    (Nat.le_of_eq (text.symm ▸ String.length_toList))
  rw [text] at found
  rw [elementConditions, found, List.map_map]
  rfl

/-- The conditions that are found are those that are written exactly if each literal argument
denotes what is left of it without its backslashes. -/
theorem elementConditions_eq_writtenConditions_iff (regular : Regular condition) :
    elementConditions condition = writtenConditions condition ↔
      ∀ l ∈ literalArguments condition,
        Expression.Literal.text? l.chars = some (String.ofList (bareText l)) := by
  rw [elementConditions_eq regular, writtenConditions]
  generalize literalArguments condition = ls
  induction ls with
  | nil => simp
  | cons l ls ih =>
      rw [List.map_cons, List.filterMap_cons, List.forall_mem_cons, ← ih]
      cases denoted : Expression.Literal.text? l.chars with
      | none =>
          refine ⟨fun same => ?_, nofun⟩
          have more : (ls.map fun l => String.ofList (bareText l)).length + 1 =
              (ls.filterMap fun l => Expression.Literal.text? l.chars).length :=
            congrArg List.length same
          have fewer := List.length_filterMap_le (fun l => Expression.Literal.text? l.chars) ls
          rw [List.length_map] at more
          omega
      | some text =>
          rw [List.cons.injEq, Option.some.injEq, eq_comm (a := text)]

/-- A literal argument whose backslashes only keep characters as they are denotes what is left
without them. -/
theorem Regular.text?_of_mem (regular : Regular condition) {l : Lexeme}
    (member : l ∈ literalArguments condition)
    (own : ∀ quote ∈ l.chars.head?, OwnEscapes quote l.chars.tail.dropLast) :
    Expression.Literal.text? l.chars = some (String.ofList (bareText l)) := by
  obtain ⟨quote, inside, mark, chars, quoted⟩ := regular.quoted_of_mem member
  have middle : l.chars.tail.dropLast = inside := by
    rw [chars, List.cons_append, List.tail_cons, List.dropLast_concat]
  have first : l.chars.head? = some quote := by
    rw [chars]
    rfl
  have escapes := own quote first
  rw [middle] at escapes
  rw [bareText, middle, chars]
  exact text?_of_ownEscapes quoted escapes mark

end Conditions

end QualityGate.Quantifier
