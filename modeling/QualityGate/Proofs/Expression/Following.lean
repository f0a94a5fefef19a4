import Mathlib.Data.List.Chain
import Mathlib.Data.Option.Basic
import QualityGate.Proofs.Expression.Lexemes

/-!
# What stands behind a name

In the tokens of a term no two operands stand side by side: of two tokens next to each other, one is
a sign or the word `in` (`Apart`). All readers of the parser keep to this, from the operands up to
whole terms. One of them reads an operand only where what is left starts with a sign or with `in`
(`Covers`), and what is read behind an operand starts so as well (`Continues`).

So behind a name in the text of a term there is a blank or a sign, or a comment, which starts like
one (`head?_behind_name`).
-/

namespace QualityGate.Expression

/-! ## Single tokens -/

section Single

variable {l : Lexeme} {ls rest : List Lexeme} {x : String}

theorem readExactly_eq_some_iff : readExactly l ls = some rest ↔ ls = l :: rest := by
  cases ls with
  | nil => simp [readExactly]
  | cons k ls => simp [readExactly, eq_comm]

theorem exists_of_readName (read : readName ls = some (x, rest)) :
    ∃ l : Lexeme, ls = l :: rest ∧ l.kind = .name ∧ x = String.ofList l.chars := by
  cases ls with
  | nil => cases read
  | cons l ls =>
      obtain ⟨⟨name, -⟩, read⟩ := Option.ite_none_right_eq_some.mp read
      cases read
      exact ⟨l, rfl, name, rfl⟩

theorem exists_of_readField (read : readField ls = some (x, rest)) :
    ∃ l : Lexeme, ls = l :: rest ∧ (l.kind = .name ∨ l.kind = .quotedName) := by
  cases ls with
  | nil => cases read
  | cons l ls =>
      rw [readField] at read
      split at read
      case isTrue quoted =>
          cases read
          exact ⟨l, rfl, .inr quoted⟩
      case isFalse =>
          obtain ⟨l, same, name, -⟩ := exists_of_readName read
          exact ⟨l, same, .inl name⟩

end Single

/-! ## Tokens side by side -/

/-- Whether a token may stand next to an operand. -/
def Separates (l : Lexeme) : Prop := l.kind = .sign ∨ l = word "in"

/-- Whether no two operands stand side by side. -/
def Apart (ls : List Lexeme) : Prop := ls.IsChain fun l k => Separates l ∨ Separates k

/-- Whether tokens may stand behind an operand. -/
def Ready (ls : List Lexeme) : Prop := (∀ k ∈ ls.head?, Separates k) ∧ Apart ls

section Tokens

variable {l : Lexeme} {ls : List Lexeme} {s : String}

theorem ready_nil : Ready [] := ⟨by simp, .nil⟩

theorem Ready.apart_cons (ready : Ready ls) (l : Lexeme) : Apart (l :: ls) :=
  List.isChain_cons.mpr ⟨fun k head => .inr (ready.1 k head), ready.2⟩

theorem Apart.ready_cons (apart : Apart ls) (separates : Separates l) : Ready (l :: ls) := by
  refine ⟨fun k head => ?_, List.isChain_cons.mpr ⟨fun k _ => .inl separates, apart⟩⟩
  cases head
  exact separates

theorem Apart.ready_sign (apart : Apart ls) (s : String) : Ready (sign s :: ls) :=
  apart.ready_cons (.inl rfl)

theorem Apart.cons_sign (apart : Apart ls) (s : String) : Apart (sign s :: ls) :=
  (apart.ready_sign s).2

end Tokens

/-! ## Readers -/

/-- Whether a reader keeps operands apart where it stops before what may stand behind one. -/
def Covers {α : Type} (reader : Reader α) : Prop :=
  ∀ ls x rest, reader ls = some (x, rest) → Ready rest → Apart ls

/-- Whether a reader goes on only with what may stand behind an operand. -/
def Continues {α : Type} (reader : Reader α) : Prop :=
  ∀ ls x rest, reader ls = some (x, rest) → Ready rest → Ready ls

section Lists

variable {α β : Type} {one : Reader α} {two : Reader β}

theorem Covers.readCommaList (covers : Covers one) (fuel : Nat) :
    Covers (readCommaList one fuel) := by
  induction fuel with
  | zero => exact fun _ _ _ read => nomatch read
  | succ fuel ih =>
      intro ls xs rest read ready
      obtain ⟨⟨x, behind⟩, first, read⟩ := Option.bind_eq_some_iff.mp read
      dsimp only at read
      split at read
      case h_1 more comma =>
          obtain ⟨⟨others, behind'⟩, later, read⟩ := Option.bind_eq_some_iff.mp read
          cases read
          obtain rfl := readExactly_eq_some_iff.mp comma
          exact covers ls x _ first ((ih more others _ later ready).ready_sign ",")
      case h_2 =>
          cases read
          exact covers ls x _ first ready

theorem Covers.readOpenList (covers : Covers one) (close : String) (fuel : Nat) :
    Covers (readOpenList one (sign close) fuel) := by
  induction fuel with
  | zero => exact fun _ _ _ read => nomatch read
  | succ fuel ih =>
      intro ls xs rest read ready
      rw [Expression.readOpenList] at read
      split at read
      case h_1 closed =>
          cases read
          rw [readExactly_eq_some_iff.mp closed]
          exact ready.2.cons_sign close
      case h_2 =>
          obtain ⟨⟨x, behind⟩, first, read⟩ := Option.bind_eq_some_iff.mp read
          dsimp only at read
          split at read
          case h_1 more comma =>
              obtain ⟨⟨others, behind'⟩, later, read⟩ := Option.bind_eq_some_iff.mp read
              cases read
              obtain rfl := readExactly_eq_some_iff.mp comma
              exact covers ls x _ first ((ih more others _ later ready).ready_sign ",")
          case h_2 =>
              obtain ⟨behind', closed, read⟩ := Option.bind_eq_some_iff.mp read
              cases read
              obtain rfl := readExactly_eq_some_iff.mp closed
              exact covers ls x _ first (ready.2.ready_sign close)

theorem Covers.readBracketed (covers : Covers one) (close : String) :
    Covers (readBracketed one (sign close)) := by
  intro ls xs rest read ready
  unfold Expression.readBracketed at read
  split at read
  case h_1 l k more =>
      split at read
      case isTrue comma =>
          cases read
          rw [comma.1, comma.2]
          exact (ready.2.cons_sign close).cons_sign ","
      case isFalse => exact covers.readOpenList close _ _ xs rest read ready
  case h_2 => exact covers.readOpenList close _ ls xs rest read ready

theorem Covers.readArguments {term : Reader Term} (covers : Covers term) :
    Covers (readArguments term) := by
  intro ls args rest read ready
  unfold Expression.readArguments at read
  split at read
  case h_1 closed =>
      cases read
      rw [readExactly_eq_some_iff.mp closed]
      exact ready.2.cons_sign ")"
  case h_2 =>
      obtain ⟨⟨_, behind⟩, list, read⟩ := Option.bind_eq_some_iff.mp read
      obtain ⟨behind', closed, read⟩ := Option.bind_eq_some_iff.mp read
      cases read
      obtain rfl := readExactly_eq_some_iff.mp closed
      exact covers.readCommaList _ ls _ _ list (ready.2.ready_sign ")")

theorem Covers.readEntry (left : Covers one) (right : Covers two) : Covers (readEntry one two) := by
  intro ls entry rest read ready
  obtain ⟨⟨k, behind⟩, key, read⟩ := Option.bind_eq_some_iff.mp read
  obtain ⟨more, colon, read⟩ := Option.bind_eq_some_iff.mp read
  obtain ⟨⟨v, behind'⟩, value, read⟩ := Option.bind_eq_some_iff.mp read
  cases read
  obtain rfl := readExactly_eq_some_iff.mp colon
  exact left ls k _ key ((right more v _ value ready).ready_sign ":")

end Lists

/-! ## Operands -/

section Operands

variable {term : Reader Term}

theorem covers_readName : Covers readName := by
  intro ls x rest read ready
  obtain ⟨l, rfl, -⟩ := exists_of_readName read
  exact ready.apart_cons l

theorem covers_readField : Covers readField := by
  intro ls x rest read ready
  obtain ⟨l, rfl, -⟩ := exists_of_readField read
  exact ready.apart_cons l

theorem covers_readLiteral : Covers readLiteral := by
  intro ls t rest read ready
  cases ls with
  | nil => cases read
  | cons l ls =>
      obtain ⟨v, -, same⟩ := Option.map_eq_some_iff.mp read
      cases same
      exact ready.apart_cons l

theorem covers_readNegative : Covers readNegative := by
  intro ls t rest read ready
  unfold readNegative at read
  split at read
  case h_1 l ls =>
      obtain ⟨rfl, read⟩ := Option.ite_none_right_eq_some.mp read
      obtain ⟨v, -, same⟩ := Option.map_eq_some_iff.mp read
      cases same
      exact (ready.apart_cons l).cons_sign "-"
  case h_2 => cases read

theorem covers_readDotted (fuel : Nat) : Covers (readDotted fuel) := by
  induction fuel with
  | zero => exact fun _ _ _ read => nomatch read
  | succ fuel ih =>
      intro ls xs rest read ready
      obtain ⟨⟨x, behind⟩, name, read⟩ := Option.bind_eq_some_iff.mp read
      dsimp only at read
      split at read
      case h_1 more point =>
          split at read
          case h_1 later =>
              cases read
              obtain rfl := readExactly_eq_some_iff.mp point
              exact covers_readName ls x _ name ((ih more _ _ later ready).ready_sign ".")
          case h_2 =>
              cases read
              exact covers_readName ls x _ name ready
      case h_2 =>
          cases read
          exact covers_readName ls x _ name ready

theorem Covers.readMessage (covers : Covers term) : Covers (readMessage term) := by
  intro ls t rest read ready
  obtain ⟨⟨kind, behind⟩, dotted, read⟩ := Option.bind_eq_some_iff.mp read
  obtain ⟨more, opened, read⟩ := Option.bind_eq_some_iff.mp read
  obtain ⟨⟨fields, behind'⟩, entries, read⟩ := Option.bind_eq_some_iff.mp read
  cases read
  obtain rfl := readExactly_eq_some_iff.mp opened
  have inner := (covers_readField.readEntry covers).readBracketed "\x7d" more fields _ entries ready
  exact covers_readDotted _ ls kind _ dotted (inner.ready_sign "\x7b")

theorem Covers.readReference (covers : Covers term) (lead : String) :
    Covers (readReference term lead) := by
  intro ls t rest read ready
  obtain ⟨⟨x, behind⟩, name, read⟩ := Option.bind_eq_some_iff.mp read
  dsimp only at read
  split at read
  case h_1 more opened =>
      obtain ⟨⟨args, behind'⟩, arguments, read⟩ := Option.bind_eq_some_iff.mp read
      obtain ⟨u, -, read⟩ := Option.bind_eq_some_iff.mp read
      cases read
      obtain rfl := readExactly_eq_some_iff.mp opened
      have inner := covers.readArguments more args _ arguments ready
      exact covers_readName ls x _ name (inner.ready_sign "(")
  case h_2 =>
      cases read
      exact covers_readName ls x _ name ready

theorem Covers.readPrimary (covers : Covers term) : Covers (readPrimary term) := by
  intro ls t rest read ready
  cases ls with
  | nil => exact .nil
  | cons l ls =>
      rw [Expression.readPrimary] at read
      split at read
      case isTrue group =>
          obtain ⟨⟨u, behind⟩, inner, read⟩ := Option.bind_eq_some_iff.mp read
          obtain ⟨more, closed, read⟩ := Option.bind_eq_some_iff.mp read
          cases read
          obtain rfl := readExactly_eq_some_iff.mp closed
          rw [group]
          exact (covers ls t _ inner (ready.2.ready_sign ")")).cons_sign "("
      split at read
      case isTrue list =>
          obtain ⟨⟨items, behind⟩, inner, same⟩ := Option.map_eq_some_iff.mp read
          cases same
          rw [list]
          exact (covers.readBracketed "]" ls items _ inner ready).cons_sign "["
      split at read
      case isTrue map =>
          obtain ⟨⟨entries, behind⟩, inner, same⟩ := Option.map_eq_some_iff.mp read
          cases same
          rw [map]
          exact ((covers.readEntry covers).readBracketed "\x7d" ls entries _ inner ready).cons_sign
            "\x7b"
      split at read
      case isTrue point =>
          rw [point]
          rcases (Option.orElse_eq_some _ _ _).mp read with message | ⟨-, reference⟩
          · exact (covers.readMessage ls t rest message ready).cons_sign "."
          · exact (covers.readReference "." ls t rest reference ready).cons_sign "."
      split at read
      case isTrue => exact covers_readNegative _ t rest read ready
      case isFalse =>
          rcases (Option.orElse_eq_some _ _ _).mp read with literal | ⟨-, read⟩
          · exact covers_readLiteral _ t rest literal ready
          rcases (Option.orElse_eq_some _ _ _).mp read with message | ⟨-, reference⟩
          · exact covers.readMessage _ t rest message ready
          · exact covers.readReference "" _ t rest reference ready

/-- Every member starts with a sign. -/
theorem Covers.readMembers (covers : Covers term) (fuel : Nat) (t : Term) :
    Continues (readMembers term fuel t) := by
  induction fuel generalizing t with
  | zero =>
      intro ls u rest read ready
      cases read
      exact ready
  | succ fuel ih =>
      intro ls u rest read ready
      cases ls with
      | nil => exact ready_nil
      | cons l ls =>
          rw [Expression.readMembers] at read
          split at read
          case isTrue point =>
              rw [point]
              dsimp only at read
              split at read
              case h_1 x more called =>
                  obtain ⟨⟨y, behind⟩, name, opens⟩ := Option.bind_eq_some_iff.mp called
                  obtain ⟨inner, opened, same⟩ := Option.map_eq_some_iff.mp opens
                  cases same
                  obtain rfl := readExactly_eq_some_iff.mp opened
                  obtain ⟨⟨args, behind⟩, arguments, read⟩ := Option.bind_eq_some_iff.mp read
                  obtain ⟨v, -, others⟩ := Option.bind_eq_some_iff.mp read
                  have inner := covers.readArguments _ args _ arguments (ih v _ u rest others ready)
                  exact (covers_readName ls _ _ name (inner.ready_sign "(")).ready_sign "."
              case h_2 =>
                  obtain ⟨⟨x, behind⟩, field, others⟩ := Option.bind_eq_some_iff.mp read
                  exact (covers_readField ls x _ field (ih _ _ u rest others ready)).ready_sign "."
          split at read
          case isTrue bracket =>
              rw [bracket]
              obtain ⟨⟨i, behind⟩, index, closes⟩ := Option.bind_eq_some_iff.mp read
              obtain ⟨more, closed, others⟩ := Option.bind_eq_some_iff.mp closes
              obtain rfl := readExactly_eq_some_iff.mp closed
              have behind := (ih _ _ u rest others ready).2.ready_sign "]"
              exact (covers ls i _ index behind).ready_sign "["
          case isFalse =>
              cases read
              exact ready

theorem Covers.readMember (covers : Covers term) : Covers (readMember term) := by
  intro ls t rest read ready
  obtain ⟨⟨u, behind⟩, primary, members⟩ := Option.bind_eq_some_iff.mp read
  exact covers.readPrimary ls u behind primary (covers.readMembers _ _ _ t rest members ready)

theorem Apart.of_dropRun {s : String} {ls : List Lexeme} (apart : Apart (dropRun (sign s) ls)) :
    Apart ls := by
  induction ls with
  | nil => exact .nil
  | cons l ls ih =>
      by_cases same : l = sign s
      · rw [dropRun, List.dropWhile_cons_of_pos (by simpa using same)] at apart
        rw [same]
        exact (ih apart).cons_sign s
      · rwa [dropRun, List.dropWhile_cons_of_neg (by simpa using same)] at apart

theorem Covers.readUnary (covers : Covers term) : Covers (readUnary term) := by
  intro ls t rest read ready
  cases ls with
  | nil => cases read
  | cons l ls =>
      rw [Expression.readUnary] at read
      split at read
      case isTrue same =>
          obtain ⟨⟨u, behind⟩, member, eq⟩ := Option.map_eq_some_iff.mp read
          cases eq
          rw [same] at member ⊢
          exact (covers.readMember _ u _ member ready).of_dropRun.cons_sign "!"
      split at read
      case isTrue same =>
          split at read
          case isTrue => exact covers.readMember _ t rest read ready
          case isFalse =>
              obtain ⟨⟨u, behind⟩, member, eq⟩ := Option.map_eq_some_iff.mp read
              cases eq
              rw [same] at member ⊢
              exact (covers.readMember _ u _ member ready).of_dropRun.cons_sign "-"
      case isFalse => exact covers.readMember _ t rest read ready

end Operands

/-! ## Operators -/

section Operators

variable {term one : Reader Term} {join? others? : Lexeme → Option (Term → Term → Term)}

/-- Whether operators may stand next to operands. -/
def Separating (join? : Lexeme → Option (Term → Term → Term)) : Prop :=
  ∀ l join, join? l = some join → Separates l

theorem Covers.readChain (covers : Covers one) (separating : Separating join?) (fuel : Nat)
    (t : Term) : Continues (readChain one join? fuel t) := by
  induction fuel generalizing t with
  | zero =>
      intro ls u rest read ready
      cases read
      exact ready
  | succ fuel ih =>
      intro ls u rest read ready
      cases ls with
      | nil => exact ready_nil
      | cons l ls =>
          rw [Expression.readChain] at read
          split at read
          case h_1 join operator =>
              obtain ⟨⟨v, behind⟩, right, others⟩ := Option.bind_eq_some_iff.mp read
              have apart := covers ls v behind right (ih _ _ u rest others ready)
              exact apart.ready_cons (separating l join operator)
          case h_2 =>
              cases read
              exact ready

theorem Covers.readJoined (covers : Covers one) (separating : Separating join?) :
    Covers (readJoined one join?) := by
  intro ls t rest read ready
  obtain ⟨⟨u, behind⟩, first, others⟩ := Option.bind_eq_some_iff.mp read
  exact covers ls u behind first (covers.readChain separating _ _ _ t rest others ready)

theorem separating_none : Separating fun _ => none := fun _ _ joins => nomatch joins

theorem Separating.ite {k : Lexeme} {join : Term → Term → Term} (separates : Separates k)
    (others : Separating others?) :
    Separating fun l => if l = k then some join else others? l := by
  intro l join' joins
  dsimp only at joins
  split at joins
  case isTrue same => exact same ▸ separates
  case isFalse => exact others l join' joins

theorem separating_product? : Separating product? :=
  .ite (.inl rfl) <| .ite (.inl rfl) <| .ite (.inl rfl) separating_none

theorem separating_sum? : Separating sum? := .ite (.inl rfl) <| .ite (.inl rfl) separating_none

theorem separating_relation? : Separating relation? :=
  .ite (.inl rfl) <| .ite (.inl rfl) <| .ite (.inl rfl) <| .ite (.inl rfl) <| .ite (.inl rfl) <|
    .ite (.inl rfl) <| .ite (.inr rfl) separating_none

theorem separating_conjunction? : Separating conjunction? := .ite (.inl rfl) separating_none

theorem separating_disjunction? : Separating disjunction? := .ite (.inl rfl) separating_none

theorem Covers.readDisjunction (covers : Covers term) : Covers (readDisjunction term) :=
  have sums := (covers.readUnary.readJoined separating_product?).readJoined separating_sum?
  have conjunctions := (sums.readJoined separating_relation?).readJoined separating_conjunction?
  conjunctions.readJoined separating_disjunction?

end Operators

/-! ## Whole terms -/

theorem covers_readTerm (depth : Nat) : Covers (readTerm depth) := by
  induction depth with
  | zero => exact fun _ _ _ read => nomatch read
  | succ depth ih =>
      intro ls t rest read ready
      obtain ⟨⟨test, behind⟩, first, read⟩ := Option.bind_eq_some_iff.mp read
      dsimp only at read
      split at read
      case h_1 more question =>
          obtain ⟨⟨u, behind'⟩, second, read⟩ := Option.bind_eq_some_iff.mp read
          obtain ⟨more', colon, read⟩ := Option.bind_eq_some_iff.mp read
          obtain ⟨⟨v, behind''⟩, third, read⟩ := Option.bind_eq_some_iff.mp read
          cases read
          obtain rfl := readExactly_eq_some_iff.mp question
          obtain rfl := readExactly_eq_some_iff.mp colon
          have elsePart := (ih more' v _ third ready).ready_sign ":"
          have thenPart := (ih.readDisjunction more u _ second elsePart).ready_sign "?"
          exact ih.readDisjunction ls test _ first thenPart
      case h_2 =>
          cases read
          exact ih.readDisjunction ls t _ first ready

/-- No two operands stand side by side in a term. -/
theorem apart_of_parse? {text : String} {t : Term} (parsed : parse? text = some t) :
    ∃ ls, Lexeme.split? text.toList = some ls ∧ Apart (Lexeme.tokensOf ls) := by
  obtain ⟨ls, split, read⟩ := Option.bind_eq_some_iff.mp parsed
  obtain ⟨⟨u, rest⟩, read, ends⟩ := Option.bind_eq_some_iff.mp read
  obtain ⟨none, ends⟩ := Option.ite_none_right_eq_some.mp ends
  obtain rfl : rest = [] := List.isEmpty_iff.mp none
  exact ⟨ls, split, covers_readTerm _ _ u [] read ready_nil⟩

/-- **Behind a name in a term there is a blank or a sign**, or a comment, which starts with a sign,
unless the name is the word `in`. -/
theorem head?_behind_name {text : String} {t : Term} (parsed : parse? text = some t)
    {before after : List Lexeme} {l : Lexeme}
    (parts : Lexeme.lexemes text.toList = before ++ l :: after) (name : l.kind = .name)
    (noIn : l ≠ word "in") : ∀ c ∈ (Lexeme.charsOf after).head?,
      Lexeme.isBlank c = true ∨ LexemeKind.sign.admits c = true := by
  obtain ⟨ls, split, apart⟩ := apart_of_parse? parsed
  rw [Lexeme.lexemes_of_split? split] at parts
  subst parts
  cases after with
  | nil => simp
  | cons k after =>
      have ends := Lexeme.head?_of_next_name (Lexeme.next_of_split? split) name
      rw [← List.singleton_append, ← List.append_assoc] at split
      have next := Lexeme.next_of_split? split
      obtain ⟨c, cs, chars⟩ := List.exists_cons_of_ne_nil (Lexeme.chars_ne_nil_of_next next)
      have admits := Lexeme.admits_of_next next c (by rw [chars]; exact List.mem_cons_self)
      rw [Lexeme.charsOf_cons, chars] at ends ⊢
      intro d head
      cases head
      by_cases token : Lexeme.isToken k = true
      · have side : Apart (l :: k :: Lexeme.tokensOf after) := by
          have own : Lexeme.isToken l = true := by simp [Lexeme.isToken, name]
          rw [Lexeme.tokensOf_append] at apart
          have behind := apart.right_of_append
          rwa [Lexeme.tokensOf, List.filter_cons_of_pos own,
            List.filter_cons_of_pos token] at behind
        rcases (List.isChain_cons_cons.mp side).1 with (sign | same) | (sign | same)
        · rw [name] at sign
          cases sign
        · exact absurd same noIn
        · exact .inr (sign ▸ admits)
        · rw [same] at chars
          rw [← (List.cons.inj chars).1] at ends
          cases ends 'i' rfl
      · have passed : k.kind = .blank ∨ k.kind = .comment := by
          simpa [Lexeme.isToken, Classical.or_iff_not_imp_left] using token
        rcases passed with blank | comment
        · exact .inl (by rwa [blank] at admits)
        · have slash := Lexeme.head?_of_next_comment next comment
          rw [chars] at slash
          cases slash
          exact .inr rfl

end QualityGate.Expression
