import QualityGate.Proofs.Expression.Following
import QualityGate.Proofs.Quantifier.LiteralArgument
import QualityGate.Quantifier.Basic

/-!
# Literal arguments of terms

The calls of quantifiers within a term have text literals as element conditions (`conditionsIn`). A
reader of terms is sound (`Sound`) if it only passes over tokens in which what it reads is written,
and reads a text literal exactly where the tokens tell of one (`Spans`). Then the arguments of calls
are told by the tokens behind the name (`Sound.call`).

Of the fields of a message a term keeps nothing, so there the tokens may tell of more.
-/

namespace QualityGate.Quantifier

open Expression (Lexeme Reader Term word sign readExactly_eq_some_iff)

/-! ## Literal arguments of terms -/

/-- The text literal that is the second of the arguments of a call. -/
def secondText? : List Term → Option String
  | _ :: .literal (.text s) :: _ => some s
  | _ => .none

/-- The element condition that the call of a function has as a literal, if it calls a quantifier. -/
def ownCondition (f : String) (args : List Term) : Found :=
  ⟨if (ofName? f).isSome then (secondText? args).toList else [], true⟩

mutual

/-- The element conditions that calls of quantifiers within a term have as literals. The call of a
quantifier comes before those within its arguments. -/
def conditionsIn : Term → Found
  | .literal _ | .name _ => .none
  | .message _ => .unknown
  | .select t _ | .has t _ | .not t | .negate t => conditionsIn t
  | .index t u | .binary _ t u | .and t u | .or t u | .walk _ t _ u =>
    conditionsIn t ++ conditionsIn u
  | .call f args => ownCondition f args ++ conditionsInEach args
  | .invoke t _ args => conditionsIn t ++ conditionsInEach args
  | .conditional test t u | .mapWhere test _ t u =>
    conditionsIn test ++ (conditionsIn t ++ conditionsIn u)
  | .list items => conditionsInEach items
  | .map entries => conditionsInEntries entries

/-- Those within terms. -/
def conditionsInEach : List Term → Found
  | [] => .none
  | t :: rest => conditionsIn t ++ conditionsInEach rest

/-- Those within the entries of a map. -/
def conditionsInEntries : List (Term × Term) → Found
  | [] => .none
  | (k, t) :: rest => conditionsIn k ++ conditionsIn t ++ conditionsInEntries rest

end

/-- What is found in each of several forms, one after the other. -/
def foundIn {α : Type} (found : α → Found) : List α → Found
  | [] => .none
  | x :: rest => found x ++ foundIn found rest

theorem conditionsInEach_eq (ts : List Term) : conditionsInEach ts = foundIn conditionsIn ts := by
  induction ts with
  | nil => rfl
  | cons t rest ih => rw [conditionsInEach, ih, foundIn]

theorem conditionsInEntries_eq (es : List (Term × Term)) :
    conditionsInEntries es = foundIn (fun e => conditionsIn e.1 ++ conditionsIn e.2) es := by
  induction es with
  | nil => rfl
  | cons e rest ih => rw [conditionsInEntries, ih, foundIn]

/-! ## Readers of terms -/

/-- Whether a term is read from the tokens up to the rest: what its calls have as literals is
written there, and it is a text literal exactly where the tokens tell so. -/
structure Spans (ls : List Lexeme) (t : Term) (rest : List Lexeme) : Prop where
  passes : Passes 0 ls rest (conditionsIn t)
  literal : ∀ s, t = .literal (.text s) →
    ∃ l, ungroup? ls = some (l, rest) ∧ Expression.Literal.text? l.chars = some s
  told : ∀ l behind, ungroup? ls = some (l, behind) → EndsArgument behind →
    rest = behind ∧ ∃ s, t = .literal (.text s) ∧ Expression.Literal.text? l.chars = some s

/-- Whether all that a reader of terms reads is read from tokens in this way. -/
def Sound (reader : Reader Term) : Prop :=
  ∀ ls t rest, reader ls = some (t, rest) → Spans ls t rest

/-- Whether a reader of other forms only passes over tokens within brackets. -/
def Within {α : Type} (reader : Reader α) (found : α → Found) : Prop :=
  ∀ ls x rest, reader ls = some (x, rest) → Passes 1 ls rest (found x)

theorem Sound.within {term : Reader Term} (sound : Sound term) : Within term conditionsIn :=
  fun ls t rest read => (sound ls t rest read).passes.mono

section Lists

variable {α β : Type} {one : Reader α} {two : Reader β} {found : α → Found}
  {found' : β → Found}

theorem Within.readCommaList (within : Within one found) (fuel : Nat) :
    Within (Expression.readCommaList one fuel) (foundIn found) := by
  induction fuel with
  | zero => exact fun _ _ _ read => nomatch read
  | succ fuel ih =>
      intro ls xs rest read
      obtain ⟨⟨x, behind⟩, first, read⟩ := Option.bind_eq_some_iff.mp read
      dsimp only at read
      cases comma : Expression.readExactly (sign ",") behind with
      | none =>
          rw [comma] at read
          cases read
          rw [foundIn, foundIn, Found.append_none]
          exact within ls x rest first
      | some more =>
          rw [comma] at read
          obtain ⟨⟨others, behind'⟩, later, read⟩ := Option.bind_eq_some_iff.mp read
          cases read
          obtain rfl := readExactly_eq_some_iff.mp comma
          exact (within ls x _ first).trans ((Passes.comma more).skip (ih more others _ later))

theorem Within.readOpenList (within : Within one found) (close : Lexeme) (fuel : Nat) :
    ∀ ls xs rest, Expression.readOpenList one close fuel ls = some (xs, rest) →
      Passes 1 ls (close :: rest) (foundIn found xs) := by
  induction fuel with
  | zero => exact fun _ _ _ read => nomatch read
  | succ fuel ih =>
      intro ls xs rest read
      rw [Expression.readOpenList] at read
      split at read
      case h_1 closed =>
          cases read
          rw [readExactly_eq_some_iff.mp closed]
          exact .refl 1 _
      case h_2 =>
          obtain ⟨⟨x, behind⟩, first, read⟩ := Option.bind_eq_some_iff.mp read
          dsimp only at read
          split at read
          case h_1 more comma =>
              obtain ⟨⟨others, behind'⟩, later, read⟩ := Option.bind_eq_some_iff.mp read
              cases read
              obtain rfl := readExactly_eq_some_iff.mp comma
              exact (within ls x _ first).trans
                ((Passes.comma more).skip (ih more others _ later))
          case h_2 =>
              obtain ⟨behind', closed, read⟩ := Option.bind_eq_some_iff.mp read
              cases read
              rw [readExactly_eq_some_iff.mp closed] at first
              rw [foundIn, foundIn, Found.append_none]
              exact within ls x _ first

theorem Within.readBracketed (within : Within one found) {close : Lexeme} {ls rest : List Lexeme}
    {xs : List α} (read : Expression.readBracketed one close ls = some (xs, rest)) :
    Passes 1 ls (close :: rest) (foundIn found xs) := by
  unfold Expression.readBracketed at read
  split at read
  case h_1 =>
      split at read
      case isTrue empty =>
          obtain ⟨rfl, rfl⟩ := empty
          cases read
          exact .comma _
      case isFalse => exact within.readOpenList close _ _ xs rest read
  case h_2 => exact within.readOpenList close _ _ xs rest read

theorem Within.readEntry (left : Within one found) (right : Within two found') :
    Within (Expression.readEntry one two) fun e => found e.1 ++ found' e.2 := by
  intro ls e rest read
  obtain ⟨⟨k, behind⟩, first, read⟩ := Option.bind_eq_some_iff.mp read
  obtain ⟨more, colon, read⟩ := Option.bind_eq_some_iff.mp read
  obtain ⟨⟨v, behind'⟩, second, read⟩ := Option.bind_eq_some_iff.mp read
  cases read
  obtain rfl := readExactly_eq_some_iff.mp colon
  have plain : sign ":" ∉ structural := by decide
  exact (left ls k _ first).trans ((Passes.token plain rfl more).skip (right more v _ second))

end Lists

/-! ### Calls -/

section Calls

variable {term : Reader Term} {f : String} {args : List Term} {t u : Term} {ls rest : List Lexeme}

theorem Within.readArguments (within : Within term conditionsIn)
    (read : Expression.readArguments term ls = some (args, rest)) :
    Passes 1 ls (sign ")" :: rest) (conditionsInEach args) := by
  rw [conditionsInEach_eq]
  unfold Expression.readArguments at read
  split at read
  case h_1 closed =>
      cases read
      rw [readExactly_eq_some_iff.mp closed]
      exact .refl 1 _
  case h_2 =>
      obtain ⟨⟨ts, behind⟩, list, read⟩ := Option.bind_eq_some_iff.mp read
      obtain ⟨more, closed, read⟩ := Option.bind_eq_some_iff.mp read
      cases read
      obtain rfl := readExactly_eq_some_iff.mp closed
      exact within.readCommaList _ ls args _ list

/-- A comma or the end of the list stands behind each of its forms. -/
theorem readCommaList_cons {fuel : Nat} {ts : List Term}
    (read : Expression.readCommaList term fuel ls = some (t :: ts, rest)) :
    ∃ behind, term ls = some (t, behind) ∧ (ts = [] ∧ behind = rest ∨
      ∃ more fuel', behind = sign "," :: more ∧
        Expression.readCommaList term fuel' more = some (ts, rest)) := by
  cases fuel with
  | zero => cases read
  | succ fuel =>
      obtain ⟨⟨x, behind⟩, first, read⟩ := Option.bind_eq_some_iff.mp read
      dsimp only at read
      split at read
      case h_1 more comma =>
          obtain ⟨⟨others, behind'⟩, later, read⟩ := Option.bind_eq_some_iff.mp read
          cases read
          exact ⟨behind, first, .inr ⟨more, fuel, readExactly_eq_some_iff.mp comma, later⟩⟩
      case h_2 =>
          cases read
          exact ⟨_, first, .inl ⟨rfl, rfl⟩⟩

theorem readCommaList_ne_nil (fuel : Nat) :
    Expression.readCommaList term fuel ls ≠ some ([], rest) := by
  intro read
  cases fuel with
  | zero => cases read
  | succ fuel =>
      obtain ⟨⟨x, behind⟩, -, read⟩ := Option.bind_eq_some_iff.mp read
      dsimp only at read
      split at read
      case h_1 =>
          obtain ⟨⟨others, behind'⟩, -, read⟩ := Option.bind_eq_some_iff.mp read
          cases read
      case h_2 => cases read

theorem secondText?_eq_none (noText : ∀ s, u ≠ .literal (.text s)) (others : List Term) :
    secondText? (t :: u :: others) = .none := by
  unfold secondText?
  split
  case h_1 same =>
      obtain ⟨-, rest⟩ := List.cons.inj same
      exact absurd (List.cons.inj rest).1 (noText _)
  case h_2 => rfl

/-- Where an argument ends behind a term, the tokens tell whether it is a text literal. -/
theorem Spans.literal?_eq (spans : Spans ls u rest) (ends : EndsArgument rest)
    (others : List Term) :
    (literal? ls).bind (fun l => Expression.Literal.text? l.chars) =
      secondText? (t :: u :: others) := by
  by_cases text : ∃ s, u = .literal (.text s)
  · obtain ⟨s, rfl⟩ := text
    obtain ⟨l, alone, denotes⟩ := spans.literal s rfl
    have here : literal? ls = some l := by
      rw [literal?, alone]
      exact if_pos ends
    rw [here, Option.bind_some, denotes]
    rfl
  · have none : literal? ls = .none := by
      refine Option.eq_none_iff_forall_ne_some.mpr fun l found => ?_
      obtain ⟨⟨k, behind⟩, group, told⟩ := Option.bind_eq_some_iff.mp found
      obtain ⟨separated, -⟩ := Option.ite_none_right_eq_some.mp told
      obtain ⟨-, s, same, -⟩ := spans.told k behind group separated
      exact text ⟨s, same⟩
    rw [none, secondText?_eq_none fun s same => text ⟨s, same⟩]
    rfl

/-- The tokens tell which text literal is the second of the arguments that are read. -/
theorem Sound.literalArgument (sound : Sound term)
    (read : Expression.readArguments term ls = some (args, rest)) :
    (literalArgument? (sign "(" :: ls)).bind (fun l => Expression.Literal.text? l.chars) =
      secondText? args := by
  rw [literalArgument?, if_pos rfl]
  unfold Expression.readArguments at read
  split at read
  case h_1 closed =>
      cases read
      rw [readExactly_eq_some_iff.mp closed]
      rfl
  case h_2 =>
      obtain ⟨⟨ts, behind⟩, list, read⟩ := Option.bind_eq_some_iff.mp read
      obtain ⟨rest, closed, read⟩ := Option.bind_eq_some_iff.mp read
      cases read
      obtain rfl := readExactly_eq_some_iff.mp closed
      match args, list with
      | [], list => exact absurd list (readCommaList_ne_nil _)
      | [t], list =>
          obtain ⟨middle, first, ⟨-, rfl⟩ | ⟨more, fuel, rfl, list⟩⟩ := readCommaList_cons list
          · rw [(sound ls t _ first).passes.level 0 (Nat.le_refl 0)]
            rfl
          · exact absurd list (readCommaList_ne_nil _)
      | t :: u :: others, list =>
          obtain ⟨middle, first, ⟨⟨⟩, -⟩ | ⟨second, fuel, rfl, list⟩⟩ := readCommaList_cons list
          obtain ⟨behind, read, ends⟩ := readCommaList_cons list
          have closed : behindArgument 0 ls = some second :=
            (sound ls t _ first).passes.level 0 (Nat.le_refl 0)
          have separated : EndsArgument behind := by
            rcases ends with ⟨-, rfl⟩ | ⟨_, _, rfl, -⟩
            · exact .inr rfl
            · exact .inl rfl
          rw [closed, Option.bind_some]
          exact (sound second u behind read).literal?_eq separated others

/-- What calls have as literals is written, the call of a quantifier first. -/
theorem Sound.call (sound : Sound term) {l : Lexeme} (name : l.kind = .name)
    (read : Expression.readArguments term ls = some (args, rest)) :
    Passes 0 (l :: sign "(" :: ls) rest
      (ownCondition (String.ofList l.chars) args ++ conditionsInEach args) := by
  have arguments := (sound.within.readArguments read).bracket (l := sign "(") rfl rfl
  have plain : l ∉ structural := not_mem_structural (by simp [name])
  have noPoint : l ≠ sign "." := fun same => plain (same ▸ by decide)
  obtain ⟨all, among, written⟩ := arguments.written
  refine ⟨fun n enough => ?_, (ownCondition (String.ofList l.chars) args).conditions ++ all, ?_, ?_⟩
  · exact (behindArgument_plain plain n _).trans (arguments.level n enough)
  · exact Found.Among.append ⟨List.Sublist.refl _, fun _ => rfl⟩ among
  · rw [conditionsFrom_cons, beq_eq_false_iff_ne.mpr noPoint, written, sound.literalArgument read,
      List.append_assoc]
    simp [namesQuantifier, name, ownCondition]

/-- Whether a term is no literal, and its calls have the given literals. -/
structure Holds (t : Term) (found : Found) : Prop where
  conditions : conditionsIn t = found
  noLiteral : ∀ v, t ≠ .literal v

/-- A term that is no literal is read as soon as what it holds is written. -/
theorem Holds.spans {found : Found} (holds : Holds t found) (passes : Passes 0 ls rest found)
    (apart : ungroup? ls = .none) : Spans ls t rest := by
  refine ⟨?_, fun s same => absurd same (holds.noLiteral _), fun l behind group => ?_⟩
  · rw [holds.conditions]
    exact passes
  · rw [apart] at group
    cases group

theorem ownCondition_single (f : String) (t : Term) : ownCondition f [t] = .none := by
  unfold ownCondition
  split <;> rfl

theorem holds_makeCall (made : Expression.makeCall f args = some u) :
    Holds u (ownCondition f args ++ conditionsInEach args) := by
  unfold Expression.makeCall at made
  split at made
  case h_1 t field =>
      cases made
      refine ⟨?_, nofun⟩
      rw [ownCondition_single, Found.none_append, conditionsInEach, conditionsInEach,
        Found.append_none, conditionsIn, conditionsIn]
  case h_2 t field =>
      cases made
      refine ⟨?_, nofun⟩
      rw [ownCondition_single, Found.none_append, conditionsInEach, conditionsInEach,
        Found.append_none]
  case h_3 => cases made
  case h_4 =>
      cases made
      exact ⟨rfl, nofun⟩

/-- The call of a member is a walk over it with one body, or with two, or else an invocation. -/
theorem makeInvoke_cases (made : Expression.makeInvoke t f args = some u) :
    (∃ mode x body, args = [.name x, body] ∧ u = .walk mode t x body) ∨
      (∃ x test body, args = [.name x, test, body] ∧ u = .mapWhere t x test body) ∨
      u = .invoke t f args := by
  unfold Expression.makeInvoke at made
  dsimp only at made
  split at made
  case h_7 =>
      split at made
      case h_1 =>
          cases made
          exact .inr (.inl ⟨_, _, _, rfl, rfl⟩)
      case h_2 => cases made
  case h_8 =>
      cases made
      exact .inr (.inr rfl)
  all_goals
    split at made
    case h_1 =>
        cases made
        exact .inl ⟨_, _, _, rfl, rfl⟩
    case h_2 => cases made

theorem holds_makeInvoke (made : Expression.makeInvoke t f args = some u) :
    Holds u (conditionsIn t ++ conditionsInEach args) := by
  rcases makeInvoke_cases made with ⟨mode, x, body, rfl, rfl⟩ | ⟨x, test, body, rfl, rfl⟩ | rfl
  · refine ⟨?_, fun _ => Term.noConfusion⟩
    simp only [conditionsInEach, conditionsIn, Found.none_append, Found.append_none]
  · refine ⟨?_, fun _ => Term.noConfusion⟩
    simp only [conditionsInEach, conditionsIn, Found.none_append, Found.append_none]
  · exact ⟨rfl, fun _ => Term.noConfusion⟩

end Calls

end QualityGate.Quantifier
