import QualityGate.Proofs.Expression.Lexemes
import QualityGate.Quantifier.Basic

/-!
# Literal arguments

The element condition of a call is its second argument. Where that is a text literal, the condition
is written in the text of the whole, as the literal denotes it. The tokens of a condition tell which
literals these are (`literalArguments`, `writtenConditions`): the name of a quantifier that is no
member stands before a parenthesis, the first argument ends at the first comma outside of brackets,
and up to the next comma or the end of the call there is nothing but the literal.

`Passes` is what a part of the tokens has to do with those behind it: which conditions are written
in it, and that the end of an argument is sought behind it.
-/

namespace QualityGate.Quantifier

open Expression (Lexeme word sign)
open Expression.Lexeme (lexemes charsOf tokensOf tokens)

/-! ## Literal arguments -/

/-- Whether the lexeme is an opening bracket of any kind. -/
def opensBracket (l : Lexeme) : Bool := [sign "(", sign "[", sign "\x7b"].contains l

/-- Whether the lexeme is a closing bracket of any kind. -/
def closesBracket (l : Lexeme) : Bool := [sign ")", sign "]", sign "\x7d"].contains l

/-- What stands behind the comma that ends an argument, given the number of brackets that are open
in it. -/
def behindArgument : Nat → List Lexeme → Option (List Lexeme)
  | _, [] => .none
  | depth, l :: rest =>
    if opensBracket l then behindArgument (depth + 1) rest
    else if closesBracket l then
      match depth with
      | 0 => .none
      | depth + 1 => behindArgument depth rest
    else if depth = 0 ∧ l = sign "," then some rest
    else behindArgument depth rest

/-- The text literal that comes next, in any number of parentheses, and what stands behind it. -/
def ungroup? : List Lexeme → Option (Lexeme × List Lexeme)
  | [] => .none
  | l :: rest =>
    if l = sign "(" then
      (ungroup? rest).bind fun (k, more) =>
        (Expression.readExactly (sign ")") more).map fun rest => (k, rest)
    else if l.kind = .text then some (l, rest) else .none

/-- Whether an argument ends before the tokens. -/
def EndsArgument (ls : List Lexeme) : Prop :=
  ls.head? = some (sign ",") ∨ ls.head? = some (sign ")")

instance (ls : List Lexeme) : Decidable (EndsArgument ls) := inferInstanceAs (Decidable (_ ∨ _))

/-- The text literal that the next argument consists of. -/
def literal? (ls : List Lexeme) : Option Lexeme :=
  (ungroup? ls).bind fun (l, rest) => if EndsArgument rest then some l else .none

/-- The text literal that the second argument of a call consists of, from the tokens behind the name
of the function. -/
def literalArgument? : List Lexeme → Option Lexeme
  | l :: rest => if l = sign "(" then (behindArgument 0 rest).bind literal? else .none
  | [] => .none

/-- Whether the lexeme is the name of a quantifier. -/
def namesQuantifier (l : Lexeme) : Bool :=
  l.kind == .name && (ofName? (String.ofList l.chars)).isSome

/-- The text literals among the second arguments of calls of quantifiers, where the flag says
whether a point comes before the tokens. -/
def literalArgumentsFrom : Bool → List Lexeme → List Lexeme
  | _, [] => []
  | point, l :: rest =>
    (if !point && namesQuantifier l then (literalArgument? rest).toList else []) ++
      literalArgumentsFrom (l == sign ".") rest

/-- The text literals among the second arguments of calls of quantifiers in a condition. -/
def literalArguments (condition : String) : List Lexeme :=
  literalArgumentsFrom false (tokens condition.toList)

/-- The element conditions that are written in a condition as literals, as these denote them. -/
def writtenConditions (condition : String) : List String :=
  (literalArguments condition).filterMap fun l => Expression.Literal.text? l.chars

theorem namesQuantifier_iff {l : Lexeme} :
    namesQuantifier l = true ↔ ∃ q : Quantifier, l = word q.name := by
  constructor
  · intro names
    obtain ⟨kind, named⟩ := Bool.and_eq_true_iff.mp names
    obtain ⟨q, found⟩ := Option.isSome_iff_exists.mp named
    have name : String.ofList l.chars = q.name := by
      unfold ofName? at found
      split at found
      case isTrue same => exact same.trans (by cases found; rfl)
      split at found
      case isTrue same => exact same.trans (by cases found; rfl)
      split at found
      case isTrue same => exact same.trans (by cases found; rfl)
      split at found
      case isTrue same => exact same.trans (by cases found; rfl)
      case isFalse => cases found
    obtain ⟨_, chars⟩ := l
    obtain rfl := beq_iff_eq.mp kind
    exact ⟨q, by rw [word, ← name, String.toList_ofList]⟩
  · rintro ⟨q, rfl⟩
    cases q <;> rfl

/-! ## Conditions that are found -/

/-- Element conditions, and whether they are all that there are to be found. -/
@[ext]
structure Found where
  conditions : List String
  complete : Bool

namespace Found

/-- Nothing, of which it is certain. -/
def none : Found := ⟨[], true⟩

/-- Nothing, though there may be more. -/
def unknown : Found := ⟨[], false⟩

instance : Append Found where
  append f g := ⟨f.conditions ++ g.conditions, f.complete && g.complete⟩

/-- Whether what is found is some of the given conditions, in order, and all of them if it is
complete. -/
structure Among (f : Found) (all : List String) : Prop where
  sublist : f.conditions.Sublist all
  eq_of_complete : f.complete = true → f.conditions = all

variable {f g h : Found} {xs ys : List String}

@[simp] theorem conditions_append : (f ++ g).conditions = f.conditions ++ g.conditions := rfl

@[simp] theorem complete_append : (f ++ g).complete = (f.complete && g.complete) := rfl

theorem append_assoc : f ++ g ++ h = f ++ (g ++ h) :=
  Found.ext (List.append_assoc ..) (Bool.and_assoc ..)

theorem append_none : f ++ none = f := Found.ext (List.append_nil _) (Bool.and_true _)

theorem none_append : none ++ f = f := rfl

theorem none_among : none.Among [] := ⟨List.Sublist.refl _, fun _ => rfl⟩

theorem unknown_among (all : List String) : unknown.Among all :=
  ⟨List.nil_sublist all, fun complete => nomatch complete⟩

theorem Among.append (first : f.Among xs) (second : g.Among ys) : (f ++ g).Among (xs ++ ys) := by
  refine ⟨first.sublist.append second.sublist, fun complete => ?_⟩
  obtain ⟨left, right⟩ := Bool.and_eq_true_iff.mp complete
  rw [conditions_append, first.eq_of_complete left, second.eq_of_complete right]

end Found

/-! ## Tokens that are passed over -/

/-- The element conditions that are written in tokens, where the flag says whether a point comes
before them. -/
def conditionsFrom (point : Bool) (ls : List Lexeme) : List String :=
  (literalArgumentsFrom point ls).filterMap fun l => Expression.Literal.text? l.chars

/-- The tokens that mean something for brackets, arguments or members. -/
def structural : List Lexeme :=
  [sign "(", sign "[", sign "\x7b", sign ")", sign "]", sign "\x7d", sign ",", sign "."]

/-- Whether what is found is written in the tokens up to the rest, and the end of an argument is
sought behind them, given at least so many open brackets. -/
structure Passes (depth : Nat) (ls rest : List Lexeme) (found : Found) : Prop where
  level : ∀ n, depth ≤ n → behindArgument n ls = behindArgument n rest
  written : ∃ all, found.Among all ∧ conditionsFrom false ls = all ++ conditionsFrom false rest

section Passes

variable {depth : Nat} {l k : Lexeme} {ls ms rest : List Lexeme} {f g : Found}

/-- The condition that is written in the argument of a call comes before those behind its name. -/
theorem conditionsFrom_cons (point : Bool) (l : Lexeme) (ls : List Lexeme) :
    conditionsFrom point (l :: ls) =
      (if !point && namesQuantifier l then
        ((literalArgument? ls).bind fun l => Expression.Literal.text? l.chars).toList else []) ++
        conditionsFrom (l == sign ".") ls := by
  rw [conditionsFrom, literalArgumentsFrom, List.filterMap_append, conditionsFrom]
  congr 1
  split
  case isTrue => cases literalArgument? ls with
    | none => rfl
    | some k => cases denoted : Expression.Literal.text? k.chars <;> simp [denoted]
  case isFalse => rfl

/-- No bracket both opens and closes. -/
theorem opensBracket_of_closes (closes : closesBracket l = true) : opensBracket l = false := by
  refine Bool.eq_false_iff.mpr fun opening => ?_
  have each : ∀ k ∈ [sign "(", sign "[", sign "\x7b"], closesBracket k = false := by decide
  rw [each l (List.contains_iff_mem.mp opening)] at closes
  cases closes

theorem behindArgument_opening (opens : opensBracket l = true) (n : Nat) (ls : List Lexeme) :
    behindArgument n (l :: ls) = behindArgument (n + 1) ls := by
  cases n <;> simp [behindArgument, opens]

theorem behindArgument_closing (closes : closesBracket l = true) (n : Nat) (ls : List Lexeme) :
    behindArgument (n + 1) (l :: ls) = behindArgument n ls := by
  simp [behindArgument, opensBracket_of_closes closes, closes]

theorem behindArgument_other (opens : opensBracket l = false) (closes : closesBracket l = false)
    {n : Nat} (noEnd : ¬ (n = 0 ∧ l = sign ",")) (ls : List Lexeme) :
    behindArgument n (l :: ls) = behindArgument n ls := by
  cases n with
  | zero =>
      have noComma : l ≠ sign "," := by simpa using noEnd
      simp [behindArgument, opens, closes, noComma]
  | succ n => simp [behindArgument, opens, closes]

/-- No argument ends at a token without a structural meaning. -/
theorem behindArgument_plain (plain : l ∉ structural) (n : Nat) (ls : List Lexeme) :
    behindArgument n (l :: ls) = behindArgument n ls := by
  simp only [structural, List.mem_cons, List.not_mem_nil, or_false, not_or] at plain
  obtain ⟨round, square, curly, round', square', curly', comma, -⟩ := plain
  refine behindArgument_other ?_ ?_ (fun ends => comma ends.2) ls
  · simp [opensBracket, round, square, curly]
  · simp [closesBracket, round', square', curly']

/-- Nothing is written in a token that starts no call of a quantifier. -/
theorem conditionsFrom_token (quiet : namesQuantifier l = true → literalArgument? ls = .none)
    (noPoint : l ≠ sign ".") : conditionsFrom false (l :: ls) = conditionsFrom false ls := by
  rw [conditionsFrom_cons, beq_eq_false_iff_ne.mpr noPoint]
  split
  case isTrue names => simp [quiet (by simpa using names)]
  case isFalse => rfl

/-- Signs name nothing. -/
theorem namesQuantifier_of_kind (kind : l.kind ≠ .name) : namesQuantifier l = false := by
  simp [namesQuantifier, kind]

/-- A lexeme of a kind of its own has no structural meaning. -/
theorem not_mem_structural (kind : l.kind ≠ .sign) : l ∉ structural := by
  intro member
  have each : ∀ k ∈ structural, k.kind = .sign := by decide
  exact kind (each l member)

namespace Passes

theorem refl (depth : Nat) (ls : List Lexeme) : Passes depth ls ls .none :=
  ⟨fun _ _ => rfl, [], Found.none_among, rfl⟩

theorem trans (first : Passes depth ls ms f) (second : Passes depth ms rest g) :
    Passes depth ls rest (f ++ g) := by
  obtain ⟨xs, among, written⟩ := first.written
  obtain ⟨ys, among', written'⟩ := second.written
  refine ⟨fun n enough => (first.level n enough).trans (second.level n enough), ?_⟩
  exact ⟨xs ++ ys, among.append among', by rw [written, written', List.append_assoc]⟩

/-- Tokens in which nothing is written lead on to others. -/
theorem skip (first : Passes depth ls ms .none) (second : Passes depth ms rest f) :
    Passes depth ls rest f := first.trans second

/-- What is written need not be found. -/
theorem forget (h : Passes depth ls rest f) : Passes depth ls rest .unknown := by
  obtain ⟨all, -, written⟩ := h.written
  exact ⟨h.level, all, Found.unknown_among all, written⟩

theorem mono (h : Passes 0 ls rest f) : Passes depth ls rest f :=
  ⟨fun n _ => h.level n (Nat.zero_le n), h.written⟩

theorem token (plain : l ∉ structural) (quiet : namesQuantifier l = false) (ls : List Lexeme) :
    Passes depth (l :: ls) ls .none := by
  have noPoint : l ≠ sign "." := fun same => plain (same ▸ by decide)
  have noName : namesQuantifier l = true → literalArgument? ls = .none := by simp [quiet]
  exact ⟨fun n _ => behindArgument_plain plain n ls, [], Found.none_among,
    conditionsFrom_token noName noPoint⟩

/-- Whatever is written in the call that a token starts need not be found. -/
theorem anything (plain : l ∉ structural) (ls : List Lexeme) :
    Passes depth (l :: ls) ls .unknown := by
  have noPoint : l ≠ sign "." := fun same => plain (same ▸ by decide)
  have split := conditionsFrom_cons false l ls
  rw [beq_eq_false_iff_ne.mpr noPoint] at split
  exact ⟨fun n _ => behindArgument_plain plain n ls, _, Found.unknown_among _, split⟩

/-- A name without a parenthesis behind it calls nothing. -/
theorem name (kind : l.kind = .name) (noCall : ls.head? ≠ some (sign "(")) :
    Passes depth (l :: ls) ls .none := by
  have plain : l ∉ structural := not_mem_structural (by simp [kind])
  have noPoint : l ≠ sign "." := fun same => plain (same ▸ by decide)
  have closed : literalArgument? ls = .none := by
    cases ls with
    | nil => rfl
    | cons k ls => exact if_neg fun opens => noCall (congrArg some opens)
  exact ⟨fun n _ => behindArgument_plain plain n ls, [], Found.none_among,
    conditionsFrom_token (fun _ => closed) noPoint⟩

theorem comma (ls : List Lexeme) : Passes 1 (sign "," :: ls) ls .none := by
  refine ⟨fun n enough => ?_, [], Found.none_among, conditionsFrom_token nofun (by decide)⟩
  exact behindArgument_other rfl rfl (fun ends => by omega) ls

/-- The name of a member calls no quantifier. -/
theorem member (kind : l.kind = .name ∨ l.kind = .quotedName) (ls : List Lexeme) :
    Passes depth (sign "." :: l :: ls) ls .none := by
  have plain : l ∉ structural :=
    not_mem_structural (by rcases kind with kind | kind <;> simp [kind])
  have noPoint : l ≠ sign "." := fun same => plain (same ▸ by decide)
  refine ⟨fun n _ => ?_, [], Found.none_among, ?_⟩
  · have point : behindArgument n (sign "." :: l :: ls) = behindArgument n (l :: ls) :=
      behindArgument_other rfl rfl (fun ends => absurd ends.2 (by decide)) (l :: ls)
    exact point.trans (behindArgument_plain plain n ls)
  · rw [conditionsFrom_cons, conditionsFrom_cons, beq_eq_false_iff_ne.mpr noPoint]
    rfl

/-- Within brackets, the level is one more. -/
theorem bracket (opens : opensBracket l = true) (closes : closesBracket k = true)
    (inner : Passes 1 ls (k :: rest) f) : Passes 0 (l :: ls) rest f := by
  have noPoint : l ≠ sign "." := by
    rintro rfl
    cases opens
  have noPoint' : k ≠ sign "." := by
    rintro rfl
    cases closes
  have noName : namesQuantifier l = false := by
    refine namesQuantifier_of_kind ?_
    have each : ∀ k ∈ [sign "(", sign "[", sign "\x7b"], k.kind ≠ .name := by decide
    exact each l (List.contains_iff_mem.mp opens)
  have noName' : namesQuantifier k = false := by
    refine namesQuantifier_of_kind ?_
    have each : ∀ k ∈ [sign ")", sign "]", sign "\x7d"], k.kind ≠ .name := by decide
    exact each k (List.contains_iff_mem.mp closes)
  obtain ⟨all, among, written⟩ := inner.written
  refine ⟨fun n _ => ?_, all, among, ?_⟩
  · rw [behindArgument_opening opens, inner.level (n + 1) (by omega),
      behindArgument_closing closes]
  · rw [conditionsFrom_token (by simp [noName]) noPoint, written,
      conditionsFrom_token (by simp [noName']) noPoint']

end Passes

end Passes

end QualityGate.Quantifier
