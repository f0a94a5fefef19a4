import QualityGate.Proofs.Expression.Connectives

/-!
# Renaming in expressions

An expression in which one name takes the place of another, wherever it stands, is read as the term
of the first expression with that name in place of the other (`parse?_rename`). Nothing is said
about what either term means: the new name may already stand in the expression, and bind or be
bound. The readers only compare names with the words that mean something to them, so it is enough
that neither of the two names is such a word.
-/

namespace QualityGate.Expression

/-- The words that the readers know: those that are no names, and the calls with a meaning of their
own. -/
def knownWords : List String :=
  ["in", "true", "false", "null", "has", "all", "exists", "exists_one", "existsOne", "filter",
    "map"]

/-- Whether the characters make up a name. -/
def isName : List Char → Bool
  | [] => false
  | c :: cs => Text.isNameStart c && cs.all Text.isNameRest

/-- A name that means nothing but what it stands for. -/
structure Identifier where
  name : String
  is_name : isName name.toList = true
  free : name ∉ knownWords

theorem Identifier.head_ne (x : Identifier) : x.name.toList.head? ≠ some '.' := by
  intro point
  obtain ⟨rest, spelled⟩ := List.head?_eq_some_iff.mp point
  have is_name := x.is_name
  rw [spelled] at is_name
  cases is_name

/-- One name in place of another. -/
structure Renaming where
  source : Identifier
  target : Identifier

namespace Renaming

/-- The characters of a name after a renaming. Points before a name stay, as functions may be called
with one. -/
def applyChars (m : Renaming) : List Char → List Char
  | '.' :: cs => '.' :: m.applyChars cs
  | cs => if cs = m.source.name.toList then m.target.name.toList else cs

/-- A name after a renaming. -/
def apply (m : Renaming) (x : String) : String := String.ofList (m.applyChars x.toList)

/-- A lexeme after a renaming. -/
def lexeme (m : Renaming) (l : Lexeme) : Lexeme :=
  if l.kind = .name ∨ l.kind = .quotedName then ⟨l.kind, m.applyChars l.chars⟩ else l

mutual

/-- A term after a renaming of all its names: variables, fields, functions and kinds of messages. -/
def term (m : Renaming) : Term → Term
  | .literal v => .literal v
  | .name x => .name (m.apply x)
  | .select t field => .select (m.term t) (m.apply field)
  | .has t field => .has (m.term t) (m.apply field)
  | .index t i => .index (m.term t) (m.term i)
  | .call f args => .call (m.apply f) (m.terms args)
  | .invoke t f args => .invoke (m.term t) (m.apply f) (m.terms args)
  | .not t => .not (m.term t)
  | .negate t => .negate (m.term t)
  | .binary op left right => .binary op (m.term left) (m.term right)
  | .and left right => .and (m.term left) (m.term right)
  | .or left right => .or (m.term left) (m.term right)
  | .conditional test t u => .conditional (m.term test) (m.term t) (m.term u)
  | .list items => .list (m.terms items)
  | .map entries => .map (m.entries entries)
  | .message kind => .message (kind.map m.apply)
  | .walk mode range x body => .walk mode (m.term range) (m.apply x) (m.term body)
  | .mapWhere range x test body =>
    .mapWhere (m.term range) (m.apply x) (m.term test) (m.term body)

/-- Terms after a renaming. -/
def terms (m : Renaming) : List Term → List Term
  | [] => []
  | t :: rest => m.term t :: m.terms rest

/-- The entries of a map after a renaming. -/
def entries (m : Renaming) : List (Term × Term) → List (Term × Term)
  | [] => []
  | (k, t) :: rest => (m.term k, m.term t) :: m.entries rest

end

variable {m : Renaming}

@[simp] theorem terms_eq_map (ts : List Term) : m.terms ts = ts.map m.term := by
  induction ts with
  | nil => rfl
  | cons t rest ih => rw [terms, ih, List.map_cons]

@[simp] theorem entries_eq_map (es : List (Term × Term)) :
    m.entries es = es.map (Prod.map m.term m.term) := by
  induction es with
  | nil => rfl
  | cons e rest ih => rw [entries, ih, List.map_cons, Prod.map]

/-! ## Names -/

theorem applyChars_of_head {cs : List Char} (head : cs.head? ≠ some '.') :
    m.applyChars cs = if cs = m.source.name.toList then m.target.name.toList else cs := by
  cases cs with
  | nil => rw [applyChars]; simp
  | cons c cs =>
      rw [applyChars]
      rintro rest ⟨⟩
      exact head rfl

theorem apply_source : m.apply m.source.name = m.target.name := by
  rw [apply, applyChars_of_head m.source.head_ne, if_pos rfl, String.ofList_toList]

/-- A word that the readers know neither goes away nor comes in. -/
theorem applyChars_eq_iff {cs : List Char} {w : String} (known : w ∈ knownWords) :
    m.applyChars cs = w.toList ↔ cs = w.toList := by
  have pointless : w.toList.head? ≠ some '.' := by
    have all : ∀ w ∈ knownWords, w.toList.head? ≠ some '.' := by decide
    exact all w known
  have free (x : Identifier) : x.name.toList ≠ w.toList := by
    intro same
    have unknown := x.free
    rw [String.toList_inj.mp same] at unknown
    exact unknown known
  by_cases head : cs.head? = some '.'
  · obtain ⟨rest, rfl⟩ := List.head?_eq_some_iff.mp head
    constructor
    · intro same
      rw [applyChars] at same
      exact absurd (by rw [← same]; rfl) pointless
    · intro same
      exact absurd (by rw [← same]; rfl) pointless
  · rw [applyChars_of_head head]
    split
    case isTrue same =>
        rw [same]
        exact iff_of_false (free m.target) (free m.source)
    case isFalse => rfl

theorem apply_eq_iff {x w : String} (known : w ∈ knownWords) : m.apply x = w ↔ x = w := by
  rw [apply, ← String.toList_inj, String.toList_ofList, applyChars_eq_iff known, String.toList_inj]

theorem apply_of_known {w : String} (known : w ∈ knownWords) : m.apply w = w :=
  (apply_eq_iff known).mpr rfl

theorem apply_ofList (cs : List Char) :
    m.apply (String.ofList cs) = String.ofList (m.applyChars cs) := by
  rw [apply, String.toList_ofList]

theorem apply_point (x : String) : m.apply ("." ++ x) = "." ++ m.apply x := by
  apply String.toList_inj.mp
  have point : ("." ++ x).toList = '.' :: x.toList := by simp
  rw [apply, point, applyChars]
  simp [apply]

/-! ## Lexemes -/

section Lexemes

variable {l : Lexeme}

@[simp] theorem kind_lexeme (l : Lexeme) : (m.lexeme l).kind = l.kind := by
  unfold lexeme
  split <;> rfl

theorem lexeme_of_name (name : l.kind = .name) : m.lexeme l = ⟨.name, m.applyChars l.chars⟩ := by
  rw [lexeme, if_pos (.inl name), name]

theorem lexeme_of_other (noName : l.kind ≠ .name) (noQuoted : l.kind ≠ .quotedName) :
    m.lexeme l = l := if_neg (not_or.mpr ⟨noName, noQuoted⟩)

@[simp] theorem lexeme_eq_sign (l : Lexeme) (s : String) :
    m.lexeme l = sign s ↔ l = sign s := by
  constructor
  · intro same
    have kind : l.kind = .sign := by rw [← kind_lexeme (m := m), same]; rfl
    rwa [lexeme_of_other (by simp [kind]) (by simp [kind])] at same
  · rintro rfl
    exact lexeme_of_other (by simp [sign]) (by simp [sign])

theorem lexeme_eq_word {w : String} (known : w ∈ knownWords) :
    m.lexeme l = word w ↔ l = word w := by
  obtain ⟨kind, cs⟩ := l
  by_cases name : kind = .name
  · subst name
    rw [lexeme_of_name rfl, word, Lexeme.mk.injEq, Lexeme.mk.injEq, applyChars_eq_iff known]
  · have other (l' : Lexeme) (kind' : l'.kind = kind) : l' ≠ word w := by
      rintro rfl
      exact name kind'.symm
    exact iff_of_false (other _ (kind_lexeme _)) (other _ rfl)

theorem isReserved_iff {cs : List Char} :
    isReserved cs = true ↔ ∃ w ∈ ["in", "true", "false", "null"], cs = w.toList := by
  simp [isReserved]

@[simp] theorem isReserved_applyChars (cs : List Char) :
    isReserved (m.applyChars cs) = isReserved cs := by
  rw [Bool.eq_iff_iff, isReserved_iff, isReserved_iff]
  refine exists_congr fun w => and_congr_right fun reserved => applyChars_eq_iff ?_
  have known : ∀ w ∈ ["in", "true", "false", "null"], w ∈ knownWords := by decide
  exact known w reserved

end Lexemes

/-! ## Readers

A reader follows a renaming if it reads renamed lexemes as what it reads before, renamed. -/

/-- What is read and what is left, after a renaming. -/
def outcome {α : Type} (m : Renaming) (f : α → α) :
    Option (α × List Lexeme) → Option (α × List Lexeme) :=
  Option.map (Prod.map f (List.map m.lexeme))

/-- Whether a reader reads renamed lexemes as what it reads before, renamed by `f`. -/
def Follows {α : Type} (m : Renaming) (f : α → α) (reader : Reader α) : Prop :=
  ∀ ls, reader (ls.map m.lexeme) = m.outcome f (reader ls)

section Steps

variable {α β : Type} {f : α → α} {g : β → β}

theorem bind_outcome {r : Option (α × List Lexeme)}
    {k k' : α × List Lexeme → Option (β × List Lexeme)}
    (next : ∀ x rest, k' (f x, rest.map m.lexeme) = m.outcome g (k (x, rest))) :
    (m.outcome f r >>= k') = m.outcome g (r >>= k) := by
  cases r with
  | none => rfl
  | some read => exact next read.1 read.2

theorem bind_map_lexeme {r : Option (List Lexeme)} {k k' : List Lexeme → Option (β × List Lexeme)}
    (next : ∀ rest, k' (rest.map m.lexeme) = m.outcome g (k rest)) :
    (r.map (List.map m.lexeme) >>= k') = m.outcome g (r >>= k) := by
  cases r with
  | none => rfl
  | some rest => exact next rest

theorem orElse_outcome {r r' : Option (α × List Lexeme)} :
    (m.outcome f r <|> m.outcome f r') = m.outcome f (r <|> r') := by
  cases r <;> rfl

@[simp] theorem readExactly_map (s : String) (ls : List Lexeme) :
    readExactly (sign s) (ls.map m.lexeme) = (readExactly (sign s) ls).map (List.map m.lexeme) := by
  cases ls with
  | nil => rfl
  | cons l ls =>
      simp only [List.map_cons, readExactly, lexeme_eq_sign]
      split <;> rfl

end Steps

theorem readName_follows : m.Follows m.apply readName := by
  intro ls
  cases ls with
  | nil => rfl
  | cons l ls =>
      simp only [List.map_cons, readName, kind_lexeme]
      by_cases name : l.kind = .name
      · simp only [lexeme_of_name name, isReserved_applyChars, ← apply_ofList]
        split <;> rfl
      · simp only [name, false_and, if_false]
        rfl

theorem readField_follows : m.Follows m.apply readField := by
  intro ls
  cases ls with
  | nil => rfl
  | cons l ls =>
      simp only [List.map_cons, readField, kind_lexeme]
      by_cases quoted : l.kind = .quotedName
      · simp only [quoted, if_true, lexeme, or_true, ← apply_ofList]
        rfl
      · rw [if_neg quoted, if_neg quoted, ← List.map_cons]
        exact readName_follows _

section Lists

variable {α β : Type} {f : α → α} {g : β → β} {one : Reader α} {two : Reader β}

theorem readCommaList_follows (follows : m.Follows f one) (fuel : Nat) :
    m.Follows (List.map f) (readCommaList one fuel) := by
  induction fuel with
  | zero => exact fun _ => rfl
  | succ fuel ih =>
      intro ls
      rw [readCommaList, readCommaList, follows ls]
      refine bind_outcome fun x rest => ?_
      dsimp only
      rw [readExactly_map]
      cases readExactly (sign ",") rest with
      | none => rfl
      | some more =>
          dsimp only [Option.map_some]
          rw [ih more]
          exact bind_outcome fun _ _ => rfl

theorem readOpenList_follows (follows : m.Follows f one) (close : String) (fuel : Nat) :
    m.Follows (List.map f) (readOpenList one (sign close) fuel) := by
  induction fuel with
  | zero => exact fun _ => rfl
  | succ fuel ih =>
      intro ls
      rw [readOpenList, readOpenList, readExactly_map]
      cases readExactly (sign close) ls with
      | some rest => rfl
      | none =>
          dsimp only [Option.map_none]
          rw [follows ls]
          refine bind_outcome fun x rest => ?_
          dsimp only
          rw [readExactly_map, readExactly_map]
          cases readExactly (sign ",") rest with
          | none => exact bind_map_lexeme fun _ => rfl
          | some more =>
              dsimp only [Option.map_some]
              rw [ih more]
              exact bind_outcome fun _ _ => rfl

theorem readBracketed_follows (follows : m.Follows f one) (close : String) :
    m.Follows (List.map f) (readBracketed one (sign close)) := by
  intro ls
  have list (ls : List Lexeme) : readOpenList one (sign close) (ls.map m.lexeme).length
      (ls.map m.lexeme) = m.outcome (List.map f) (readOpenList one (sign close) ls.length ls) := by
    rw [List.length_map]
    exact readOpenList_follows follows close ls.length ls
  match ls with
  | [] => exact list []
  | [l] => exact list [l]
  | l :: k :: rest =>
      simp only [List.map_cons, readBracketed, lexeme_eq_sign]
      split
      · rfl
      · exact list (l :: k :: rest)

theorem readEntry_follows (left : m.Follows f one) (right : m.Follows g two) :
    m.Follows (Prod.map f g) (readEntry one two) := by
  intro ls
  rw [readEntry, readEntry, left ls]
  refine bind_outcome fun x rest => ?_
  dsimp only
  rw [readExactly_map]
  refine bind_map_lexeme fun rest => ?_
  rw [right rest]
  exact bind_outcome fun _ _ => rfl

end Lists

/-! ## Calls -/

section Calls

variable {f : String} {args : List Term}

theorem makeCall_map (f : String) (args : List Term) :
    makeCall (m.apply f) (args.map m.term) = (makeCall f args).map m.term := by
  by_cases has : f = "has" ∧ args.length = 1
  · obtain ⟨rfl, single⟩ := has
    match args, single with
    | [t], _ =>
        rw [apply_of_known (by decide)]
        cases t <;> rfl
  · have has' : ¬ (m.apply f = "has" ∧ (args.map m.term).length = 1) := by
      rwa [apply_eq_iff (by decide), List.length_map]
    rw [makeCall_of_other has, makeCall_of_other has']
    simp [term]

/-- The calls after a point that bind a name. -/
def bindingWords : List String := ["all", "exists", "exists_one", "existsOne", "filter", "map"]

/-- Whether a call after a point binds a name. -/
def Binds (f : String) (args : List Term) : Prop :=
  f ∈ bindingWords ∧ args.length = 2 ∨ f = "map" ∧ args.length = 3

theorem makeInvoke_of_not_binds {t : Term} (free : ¬ Binds f args) :
    makeInvoke t f args = some (.invoke t f args) := by
  unfold makeInvoke
  dsimp only
  split
  case h_7 => exact absurd (.inr ⟨rfl, rfl⟩) free
  case h_8 => rfl
  all_goals exact absurd (.inl ⟨by decide, rfl⟩) free

theorem makeInvoke_pair (binding : f ∈ bindingWords) :
    ∃ mode, ∀ t x body, makeInvoke t f [x, body] = match x with
      | .name x => some (.walk mode t x body)
      | _ => none := by
  simp only [bindingWords, List.mem_cons, List.not_mem_nil, or_false] at binding
  rcases binding with rfl | rfl | rfl | rfl | rfl | rfl
  · exact ⟨.all, fun _ _ _ => rfl⟩
  · exact ⟨.exists, fun _ _ _ => rfl⟩
  · exact ⟨.existsOne, fun _ _ _ => rfl⟩
  · exact ⟨.existsOne, fun _ _ _ => rfl⟩
  · exact ⟨.filter, fun _ _ _ => rfl⟩
  · exact ⟨.map, fun _ _ _ => rfl⟩

theorem known_of_binding (binding : f ∈ bindingWords) : f ∈ knownWords := by
  have known : ∀ w ∈ bindingWords, w ∈ knownWords := by decide
  exact known f binding

theorem binds_map : Binds (m.apply f) (args.map m.term) ↔ Binds f args := by
  have binding : m.apply f ∈ bindingWords ↔ f ∈ bindingWords := by
    constructor
    · intro binding
      rwa [(apply_eq_iff (known_of_binding binding)).mp rfl]
    · intro binding
      rwa [apply_of_known (known_of_binding binding)]
  rw [Binds, Binds, binding, apply_eq_iff (by decide), List.length_map]

theorem makeInvoke_map (t : Term) (f : String) (args : List Term) :
    makeInvoke (m.term t) (m.apply f) (args.map m.term) = (makeInvoke t f args).map m.term := by
  by_cases binds : Binds f args
  · rcases binds with ⟨binding, pair⟩ | ⟨rfl, triple⟩
    · obtain ⟨mode, made⟩ := makeInvoke_pair binding
      match args, pair with
      | [x, body], _ =>
          rw [apply_of_known (known_of_binding binding), List.map_cons, List.map_singleton, made,
            made]
          cases x <;> rfl
    · match args, triple with
      | [x, test, body], _ =>
          rw [apply_of_known (by decide)]
          cases x <;> rfl
  · rw [makeInvoke_of_not_binds binds, makeInvoke_of_not_binds (mt binds_map.mp binds)]
    simp [term]

end Calls

/-! ## Operands -/

theorem literal_outcome (value? : Option Value) (ls : List Lexeme) :
    value?.map (fun v => (Term.literal v, ls.map m.lexeme)) =
      m.outcome m.term (value?.map fun v => (Term.literal v, ls)) := by
  cases value? <;> rfl

theorem readLiteral_follows : m.Follows m.term readLiteral := by
  intro ls
  cases ls with
  | nil => rfl
  | cons l ls =>
      by_cases name : l.kind = .name
      · simp only [List.map_cons, readLiteral, kind_lexeme, name,
          lexeme_eq_word (w := "true") (by decide), lexeme_eq_word (w := "false") (by decide),
          lexeme_eq_word (w := "null") (by decide)]
        exact literal_outcome _ ls
      · by_cases quoted : l.kind = .quotedName
        · simp [readLiteral, quoted, outcome]
        · simp only [List.map_cons, readLiteral, lexeme_of_other name quoted]
          exact literal_outcome _ ls

theorem readNegative_follows : m.Follows m.term readNegative := by
  intro ls
  match ls with
  | [] => rfl
  | [_] => rfl
  | s :: l :: ls =>
      simp only [List.map_cons, readNegative, lexeme_eq_sign, kind_lexeme]
      split
      · cases kind : l.kind with
        | integer | double =>
            rw [lexeme_of_other (by simp [kind]) (by simp [kind])]
            exact literal_outcome _ ls
        | _ => rfl
      · rfl

theorem readDotted_follows (fuel : Nat) : m.Follows (List.map m.apply) (readDotted fuel) := by
  induction fuel with
  | zero => exact fun _ => rfl
  | succ fuel ih =>
      intro ls
      rw [readDotted, readDotted, readName_follows ls]
      refine bind_outcome fun x rest => ?_
      dsimp only
      rw [readExactly_map]
      cases readExactly (sign ".") rest with
      | none => rfl
      | some more =>
          dsimp only [Option.map_some]
          rw [ih more]
          cases readDotted fuel more <;> rfl

section Terms

variable {term : Reader Term}

theorem readArguments_follows (follows : m.Follows m.term term) :
    m.Follows (List.map m.term) (readArguments term) := by
  intro ls
  rw [readArguments, readArguments, readExactly_map]
  cases readExactly (sign ")") ls with
  | some rest => rfl
  | none =>
      dsimp only [Option.map_none]
      rw [List.length_map, readCommaList_follows follows ls.length ls]
      refine bind_outcome fun args rest => ?_
      dsimp only
      rw [readExactly_map]
      exact bind_map_lexeme fun _ => rfl

theorem readMessage_follows (follows : m.Follows m.term term) :
    m.Follows m.term (readMessage term) := by
  intro ls
  rw [readMessage, readMessage, List.length_map, readDotted_follows ls.length ls]
  refine bind_outcome fun kind rest => ?_
  dsimp only
  rw [readExactly_map]
  refine bind_map_lexeme fun rest => ?_
  rw [readBracketed_follows (readEntry_follows readField_follows follows) _ rest]
  exact bind_outcome fun _ _ => rfl

theorem readReference_follows (follows : m.Follows m.term term) {lead : String}
    (kept : ∀ x, m.apply (lead ++ x) = lead ++ m.apply x) :
    m.Follows m.term (readReference term lead) := by
  intro ls
  rw [readReference, readReference, readName_follows ls]
  refine bind_outcome fun x rest => ?_
  dsimp only
  rw [readExactly_map]
  cases readExactly (sign "(") rest with
  | none => rfl
  | some more =>
      dsimp only [Option.map_some]
      rw [readArguments_follows follows more]
      refine bind_outcome fun args rest => ?_
      dsimp only
      rw [← kept, makeCall_map]
      cases makeCall (lead ++ x) args <;> rfl

theorem readPrimary_follows (follows : m.Follows m.term term) :
    m.Follows m.term (readPrimary term) := by
  intro ls
  cases ls with
  | nil => rfl
  | cons l ls =>
      simp only [List.map_cons, readPrimary, lexeme_eq_sign]
      -- The first sign settles the form: a group, a list, a map, a leading point or a minus.
      split
      · rw [follows ls]
        refine bind_outcome fun t rest => ?_
        dsimp only
        rw [readExactly_map]
        exact bind_map_lexeme fun _ => rfl
      split
      · rw [readBracketed_follows follows _ ls]
        cases readBracketed term (sign "]") ls with
        | none => rfl
        | some read => simp [outcome, Renaming.term]
      split
      · rw [readBracketed_follows (readEntry_follows follows follows) _ ls]
        cases readBracketed (readEntry term term) (sign "\x7d") ls with
        | none => rfl
        | some read => simp [outcome, Renaming.term]
      split
      · rw [readMessage_follows follows ls, readReference_follows follows apply_point ls]
        exact orElse_outcome
      split
      · exact readNegative_follows (l :: ls)
      · rw [← List.map_cons, readLiteral_follows, readMessage_follows follows,
          readReference_follows follows (by simp), orElse_outcome, orElse_outcome]

theorem readMembers_follows (follows : m.Follows m.term term) (fuel : Nat) (t : Term)
    (ls : List Lexeme) :
    readMembers term fuel (m.term t) (ls.map m.lexeme) =
      m.outcome m.term (readMembers term fuel t ls) := by
  induction fuel generalizing t ls with
  | zero => rfl
  | succ fuel ih =>
      cases ls with
      | nil => rfl
      | cons l ls =>
          simp only [List.map_cons, readMembers, lexeme_eq_sign]
          split
          · -- A name behind a point is read once more, as a field, where no call follows.
            have field : (do
                let read ← readField (ls.map m.lexeme)
                readMembers term fuel (.select (m.term t) read.1) read.2) = m.outcome m.term (do
                let read ← readField ls
                readMembers term fuel (.select t read.1) read.2) := by
              rw [readField_follows ls]
              exact bind_outcome fun x rest => ih (.select t x) rest
            rw [readName_follows ls]
            cases readName ls with
            | none => exact field
            | some name =>
                obtain ⟨x, rest⟩ := name
                dsimp only [outcome, Option.map_some, Option.bind_some, Prod.map_apply]
                rw [readExactly_map]
                cases readExactly (sign "(") rest with
                | none => exact field
                | some more =>
                    dsimp only [Option.map_some]
                    rw [readArguments_follows follows more]
                    refine bind_outcome fun args rest => ?_
                    dsimp only
                    rw [makeInvoke_map]
                    cases makeInvoke t x args with
                    | none => rfl
                    | some u => exact ih u rest
          split
          · rw [follows ls]
            refine bind_outcome fun i rest => ?_
            dsimp only
            rw [readExactly_map]
            exact bind_map_lexeme fun rest => ih (.index t i) rest
          · rfl

theorem readMember_follows (follows : m.Follows m.term term) :
    m.Follows m.term (readMember term) := by
  intro ls
  rw [readMember, readMember, readPrimary_follows follows ls]
  refine bind_outcome fun t rest => ?_
  dsimp only
  rw [List.length_map]
  exact readMembers_follows follows rest.length t rest

theorem dropRun_map (s : String) (ls : List Lexeme) :
    dropRun (sign s) (ls.map m.lexeme) = (dropRun (sign s) ls).map m.lexeme := by
  rw [dropRun, dropRun, List.dropWhile_map]
  congr 2
  funext l
  simp

theorem startsNumber_map (ls : List Lexeme) :
    startsNumber (ls.map m.lexeme) = startsNumber ls := by
  cases ls <;> simp [startsNumber]

theorem readUnary_follows (follows : m.Follows m.term term) :
    m.Follows m.term (readUnary term) := by
  intro ls
  cases ls with
  | nil => rfl
  | cons l ls =>
      have member := readMember_follows follows
      simp only [List.map_cons, readUnary, lexeme_eq_sign, startsNumber_map]
      split
      case isTrue same =>
          rw [(lexeme_eq_sign _ _).mpr same, same, dropRun_map, member]
          cases readMember term (dropRun (sign "!") ls) <;> rfl
      split
      case isTrue same =>
          split
          · exact member (l :: ls)
          · rw [(lexeme_eq_sign _ _).mpr same, same, dropRun_map, member]
            cases readMember term (dropRun (sign "-") ls) <;> rfl
      · exact member (l :: ls)

/-! ## Operators -/

/-- Whether the operators of one strength stay, and join renamed forms to renamed ones. -/
structure Preserves (m : Renaming) (join? : Lexeme → Option (Term → Term → Term)) : Prop where
  sign : ∀ l, join? (m.lexeme l) = join? l
  term : ∀ l join, join? l = some join → ∀ t u, m.term (join t u) = join (m.term t) (m.term u)

variable {one : Reader Term} {join? : Lexeme → Option (Term → Term → Term)}

theorem readChain_follows (follows : m.Follows m.term one) (preserves : m.Preserves join?)
    (fuel : Nat) (t : Term) (ls : List Lexeme) :
    readChain one join? fuel (m.term t) (ls.map m.lexeme) =
      m.outcome m.term (readChain one join? fuel t ls) := by
  induction fuel generalizing t ls with
  | zero => rfl
  | succ fuel ih =>
      cases ls with
      | nil => rfl
      | cons l ls =>
          simp only [List.map_cons, readChain, preserves.sign]
          cases joins : join? l with
          | none => rfl
          | some join =>
              dsimp only
              rw [follows ls]
              refine bind_outcome fun u rest => ?_
              dsimp only
              rw [← preserves.term l join joins, ih]

theorem readJoined_follows (follows : m.Follows m.term one) (preserves : m.Preserves join?) :
    m.Follows m.term (readJoined one join?) := by
  intro ls
  rw [readJoined, readJoined, follows ls]
  refine bind_outcome fun t rest => ?_
  dsimp only
  rw [List.length_map]
  exact readChain_follows follows preserves rest.length t rest

theorem preserves_none : m.Preserves fun _ => none := ⟨fun _ => rfl, fun _ _ joins => nomatch joins⟩

theorem Preserves.ite {others? : Lexeme → Option (Term → Term → Term)} {k : Lexeme}
    {join : Term → Term → Term} (fixed : ∀ l, m.lexeme l = k ↔ l = k)
    (kept : ∀ t u, m.term (join t u) = join (m.term t) (m.term u)) (others : m.Preserves others?) :
    m.Preserves fun l => if l = k then some join else others? l := by
  refine ⟨fun l => by simp only [fixed, others.sign], fun l join' joins => ?_⟩
  split at joins
  · cases joins
    exact kept
  · exact others.term l join' joins

theorem preserves_product? : m.Preserves product? :=
  .ite (lexeme_eq_sign · _) (fun _ _ => rfl) <| .ite (lexeme_eq_sign · _) (fun _ _ => rfl) <|
    .ite (lexeme_eq_sign · _) (fun _ _ => rfl) preserves_none

theorem preserves_sum? : m.Preserves sum? :=
  .ite (lexeme_eq_sign · _) (fun _ _ => rfl) <| .ite (lexeme_eq_sign · _) (fun _ _ => rfl)
    preserves_none

theorem preserves_relation? : m.Preserves relation? :=
  .ite (lexeme_eq_sign · _) (fun _ _ => rfl) <| .ite (lexeme_eq_sign · _) (fun _ _ => rfl) <|
    .ite (lexeme_eq_sign · _) (fun _ _ => rfl) <| .ite (lexeme_eq_sign · _) (fun _ _ => rfl) <|
    .ite (lexeme_eq_sign · _) (fun _ _ => rfl) <| .ite (lexeme_eq_sign · _) (fun _ _ => rfl) <|
    .ite (fun _ => lexeme_eq_word (by decide)) (fun _ _ => rfl) preserves_none

theorem preserves_conjunction? : m.Preserves conjunction? :=
  .ite (lexeme_eq_sign · _) (fun _ _ => rfl) preserves_none

theorem preserves_disjunction? : m.Preserves disjunction? :=
  .ite (lexeme_eq_sign · _) (fun _ _ => rfl) preserves_none

theorem readDisjunction_follows (follows : m.Follows m.term term) :
    m.Follows m.term (readDisjunction term) :=
  have products := readJoined_follows (readUnary_follows follows) preserves_product?
  have sums := readJoined_follows products preserves_sum?
  have relations := readJoined_follows sums preserves_relation?
  readJoined_follows (readJoined_follows relations preserves_conjunction?) preserves_disjunction?

end Terms

/-! ## Whole terms -/

theorem readTerm_follows (depth : Nat) : m.Follows m.term (readTerm depth) := by
  induction depth with
  | zero => exact fun _ => rfl
  | succ depth ih =>
      intro ls
      have test := readDisjunction_follows ih
      rw [readTerm, readTerm, test ls]
      refine bind_outcome fun t rest => ?_
      dsimp only
      rw [readExactly_map]
      cases readExactly (sign "?") rest with
      | none => rfl
      | some more =>
          dsimp only [Option.map_some]
          rw [test more]
          refine bind_outcome fun u rest => ?_
          dsimp only
          rw [readExactly_map]
          refine bind_map_lexeme fun rest => ?_
          rw [ih rest]
          exact bind_outcome fun _ _ => rfl

/-- A text with the renamed tokens of another one denotes the renamed term of it. -/
theorem parse?_rename {text text' : String}
    (tokens : Lexeme.tokens? text'.toList =
      (Lexeme.tokens? text.toList).map (List.map m.lexeme)) :
    parse? text' = (parse? text).map m.term := by
  have parse (text : String) : parse? text = (Lexeme.tokens? text.toList).bind fun ls =>
      (readTerm (ls.length + 1) ls).bind fun read =>
        if read.2.isEmpty then some read.1 else none := by
    simp only [parse?, Lexeme.tokens?, Option.bind_map]
    rfl
  rw [parse, parse, tokens]
  cases Lexeme.tokens? text.toList with
  | none => rfl
  | some ls =>
      simp only [Option.map_some, Option.bind_some, List.length_map, readTerm_follows _ ls]
      cases readTerm (ls.length + 1) ls with
      | none => rfl
      | some read => cases read.2 <;> simp [outcome, *]

end Renaming

end QualityGate.Expression
