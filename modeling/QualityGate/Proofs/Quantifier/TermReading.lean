import QualityGate.Proofs.Quantifier.TermCondition

/-!
# Reading terms with literal arguments

All readers of the parser are sound, from the operands up to whole terms. So the literals that the
calls within a term have as element conditions are those that are written in its text
(`writtenConditions_of_parse?`).
-/

namespace QualityGate.Quantifier

open Expression (Lexeme Reader Term word sign readExactly_eq_some_iff exists_of_readName
  exists_of_readField)

/-! ## Operands -/

section Operands

variable {term : Reader Term} {t u : Term} {l : Lexeme} {ls ms rest : List Lexeme}

/-- Only a parenthesis or a text literal starts a literal argument. -/
theorem ungroup?_eq_none (noParenthesis : l ≠ sign "(") (noText : l.kind ≠ .text) :
    ungroup? (l :: ls) = .none := by
  rw [ungroup?, if_neg noParenthesis, if_neg noText]

theorem ungroup?_of_kind (noSign : l.kind ≠ .sign) (noText : l.kind ≠ .text) :
    ungroup? (l :: ls) = .none :=
  ungroup?_eq_none (fun same => noSign (same ▸ rfl)) noText

/-- Numbers are no texts. -/
theorem integer?_ne_text (negative : Bool) (cs : List Char) (s : String) :
    Expression.Literal.integer? negative cs ≠ some (.text s) := by
  have last {i? : Option Int} : (i?.bind fun i =>
      if -0x8000_0000_0000_0000 ≤ i ∧ i < 0x8000_0000_0000_0000 then some (Expression.Value.int i)
      else .none) ≠ some (.text s) := by
    intro denotes
    obtain ⟨i, -, denotes⟩ := Option.bind_eq_some_iff.mp denotes
    obtain ⟨-, denotes⟩ := Option.ite_none_right_eq_some.mp denotes
    cases denotes
  unfold Expression.Literal.integer?
  dsimp only
  split
  case h_1 => split <;> exact last
  case h_2 => exact last

theorem unsigned?_ne_text (cs : List Char) (s : String) :
    Expression.Literal.unsigned? cs ≠ some (.text s) := by
  have last {n? : Option Nat} : (n?.bind fun n =>
      if n < 0x1_0000_0000_0000_0000 then some (Expression.Value.uint n) else .none) ≠
        some (.text s) := by
    intro denotes
    obtain ⟨n, -, denotes⟩ := Option.bind_eq_some_iff.mp denotes
    obtain ⟨-, denotes⟩ := Option.ite_none_right_eq_some.mp denotes
    cases denotes
  unfold Expression.Literal.unsigned?
  dsimp only
  split <;> exact last

theorem double?_ne_text (negative : Bool) (cs : List Char) (s : String) :
    Expression.Literal.double? negative cs ≠ some (.text s) := by
  intro denotes
  obtain ⟨-, denotes⟩ := Option.ite_none_left_eq_some.mp denotes
  cases denotes

theorem sound_readLiteral : Sound Expression.readLiteral := by
  intro ls t rest read
  cases ls with
  | nil => cases read
  | cons l ls =>
      obtain ⟨v, value, same⟩ := Option.map_eq_some_iff.mp read
      cases same
      have noSign : l.kind ≠ .sign := by
        intro kind
        rw [kind] at value
        cases value
      have plain := not_mem_structural noSign
      -- Every other literal spans its lexeme as soon as it is no text.
      have other (noText : l.kind ≠ .text) (quiet : namesQuantifier l = false)
          (apart : ∀ s, v ≠ .text s) : Spans (l :: rest) (.literal v) rest := by
        refine ⟨.token plain quiet rest, fun s same => ?_, fun k behind group => ?_⟩
        · exact absurd (Term.literal.inj same) (apart s)
        · rw [ungroup?_of_kind noSign noText] at group
          cases group
      cases own : l.kind with
      | text =>
          have quiet : namesQuantifier l = false := namesQuantifier_of_kind (by simp [own])
          have noParenthesis : l ≠ sign "(" := fun same => noSign (same ▸ rfl)
          have group : ungroup? (l :: rest) = some (l, rest) := by
            rw [ungroup?, if_neg noParenthesis, if_pos own]
          rw [own] at value
          obtain ⟨text, denotes, same⟩ := Option.map_eq_some_iff.mp value
          cases same
          refine ⟨.token plain quiet rest, fun s same => ?_, fun k behind group' _ => ?_⟩
          · cases same
            exact ⟨l, group, denotes⟩
          · rw [group] at group'
            cases group'
            exact ⟨rfl, text, rfl, denotes⟩
      | integer =>
          refine other (by simp [own]) (namesQuantifier_of_kind (by simp [own])) fun s same => ?_
          exact integer?_ne_text _ _ s (same ▸ own ▸ value)
      | unsigned =>
          refine other (by simp [own]) (namesQuantifier_of_kind (by simp [own])) fun s same => ?_
          exact unsigned?_ne_text _ s (same ▸ own ▸ value)
      | double =>
          refine other (by simp [own]) (namesQuantifier_of_kind (by simp [own])) fun s same => ?_
          exact double?_ne_text _ _ s (same ▸ own ▸ value)
      | bytes =>
          refine other (by simp [own]) (namesQuantifier_of_kind (by simp [own])) fun s same => ?_
          rw [own] at value
          obtain ⟨bs, -, bytes⟩ := Option.map_eq_some_iff.mp value
          cases bytes.trans same
      | name =>
          simp only [own] at value
          split at value
          case isTrue word =>
              cases value
              exact other (by simp [own]) (word ▸ rfl) nofun
          split at value
          case isTrue word =>
              cases value
              exact other (by simp [own]) (word ▸ rfl) nofun
          split at value
          case isTrue word =>
              cases value
              exact other (by simp [own]) (word ▸ rfl) nofun
          case isFalse => cases value
      | blank | comment | quotedName | sign =>
          rw [own] at value
          cases value

theorem sound_readNegative : Sound Expression.readNegative := by
  intro ls t rest read
  unfold Expression.readNegative at read
  split at read
  case h_1 l ls =>
      obtain ⟨rfl, read⟩ := Option.ite_none_right_eq_some.mp read
      obtain ⟨v, value, same⟩ := Option.map_eq_some_iff.mp read
      cases same
      have minus : sign "-" ∉ structural := by decide
      have number (noSign : l.kind ≠ .sign) (noName : l.kind ≠ .name) (apart : ∀ s, v ≠ .text s) :
          Spans (sign "-" :: l :: rest) (.literal v) rest := by
        have quiet := namesQuantifier_of_kind noName
        have passes : Passes 0 (l :: rest) rest .none :=
          .token (not_mem_structural noSign) quiet rest
        refine ⟨(Passes.token minus rfl _).skip passes, fun s same => ?_, fun k behind group => ?_⟩
        · exact absurd (Term.literal.inj same) (apart s)
        · cases group
      cases own : l.kind with
      | integer =>
          refine number (by simp [own]) (by simp [own]) fun s same => ?_
          exact integer?_ne_text _ _ s (same ▸ own ▸ value)
      | double =>
          refine number (by simp [own]) (by simp [own]) fun s same => ?_
          exact double?_ne_text _ _ s (same ▸ own ▸ value)
      | _ =>
          rw [own] at value
          cases value
  case h_2 => cases read

/-- Names with points between them are passed over, also behind a point. -/
theorem passes_readDotted {fuel : Nat} {xs : List String}
    (read : Expression.readDotted fuel ls = some (xs, rest)) :
    (∃ l more, ls = l :: more ∧ l.kind = .name) ∧ Passes 0 ls rest .unknown ∧
      Passes 0 (sign "." :: ls) rest .unknown := by
  induction fuel generalizing ls xs rest with
  | zero => cases read
  | succ fuel ih =>
      obtain ⟨⟨x, behind⟩, name, continues⟩ := Option.bind_eq_some_iff.mp read
      obtain ⟨l, rfl, kind, -⟩ := exists_of_readName name
      have alone : Passes 0 (l :: behind) behind .unknown :=
        .anything (not_mem_structural (by simp [kind])) behind
      have behindPoint : Passes 0 (sign "." :: l :: behind) behind .unknown :=
        (Passes.member (.inl kind) behind).forget
      refine ⟨⟨l, behind, rfl, kind⟩, ?_⟩
      dsimp only at continues
      split at continues
      case h_1 more point =>
          split at continues
          case h_1 others _ later =>
              cases continues
              obtain rfl := readExactly_eq_some_iff.mp point
              obtain ⟨-, -, rest⟩ := ih later
              exact ⟨alone.trans rest, behindPoint.trans rest⟩
          case h_2 =>
              cases continues
              exact ⟨alone, behindPoint⟩
      case h_2 =>
          cases continues
          exact ⟨alone, behindPoint⟩

/-- The construction of a message, of which nothing is kept, also behind a point. -/
theorem Sound.message (sound : Sound term)
    (read : Expression.readMessage term ls = some (t, rest)) :
    Spans ls t rest ∧ Spans (sign "." :: ls) t rest := by
  obtain ⟨⟨kind, behind⟩, dotted, read⟩ := Option.bind_eq_some_iff.mp read
  obtain ⟨more, opened, read⟩ := Option.bind_eq_some_iff.mp read
  obtain ⟨⟨fields, behind'⟩, entries, read⟩ := Option.bind_eq_some_iff.mp read
  cases read
  obtain rfl := readExactly_eq_some_iff.mp opened
  have field : Within Expression.readField fun _ => .unknown := by
    intro ls x rest read
    obtain ⟨l, rfl, kind⟩ := exists_of_readField read
    refine .anything (not_mem_structural ?_) rest
    rcases kind with kind | kind <;> simp [kind]
  have inner := (field.readEntry sound.within).readBracketed entries
  have braces := (inner.bracket (l := sign "\x7b") rfl rfl).forget
  obtain ⟨⟨l, others, rfl, name⟩, alone, behindPoint⟩ := passes_readDotted dotted
  have holds : Holds (.message kind) .unknown := ⟨rfl, nofun⟩
  exact ⟨holds.spans (alone.trans braces) (ungroup?_of_kind (by simp [name]) (by simp [name])),
    holds.spans (behindPoint.trans braces) rfl⟩

/-- A name, or the call of a function. -/
theorem exists_of_readReference {lead : String}
    (read : Expression.readReference term lead ls = some (t, rest)) :
    ∃ l more, ls = l :: more ∧ l.kind = .name ∧
      (Holds t .none ∧ rest = more ∧ more.head? ≠ some (sign "(") ∨
        ∃ inner args, more = sign "(" :: inner ∧
          Expression.readArguments term inner = some (args, rest) ∧
            Holds t
              (ownCondition (lead ++ String.ofList l.chars) args ++ conditionsInEach args)) := by
  obtain ⟨⟨x, behind⟩, name, read⟩ := Option.bind_eq_some_iff.mp read
  obtain ⟨l, rfl, kind, rfl⟩ := exists_of_readName name
  refine ⟨l, behind, rfl, kind, ?_⟩
  dsimp only at read
  split at read
  case h_1 more opened =>
      obtain ⟨⟨args, behind'⟩, arguments, read⟩ := Option.bind_eq_some_iff.mp read
      obtain ⟨u, made, read⟩ := Option.bind_eq_some_iff.mp read
      cases read
      exact .inr ⟨more, args, readExactly_eq_some_iff.mp opened, arguments, holds_makeCall made⟩
  case h_2 closed =>
      cases read
      refine .inl ⟨⟨rfl, nofun⟩, rfl, fun opens => ?_⟩
      obtain ⟨more, rfl⟩ := List.head?_eq_some_iff.mp opens
      cases closed

/-- A function that is called with a point before its name is no quantifier. -/
theorem ownCondition_of_point (x : String) (args : List Term) :
    ownCondition ("." ++ x) args = .none := by
  have other (q : Quantifier) : "." ++ x ≠ q.name := by
    intro same
    have chars := congrArg String.toList same
    rw [String.toList_append] at chars
    cases q <;> cases chars
  have none : ofName? ("." ++ x) = .none := by
    have all := other .all
    have any := other .any
    have one := other .one
    have none := other .none
    simp only [name] at all any one none
    rw [ofName?, if_neg all, if_neg any, if_neg one, if_neg none]
  rw [ownCondition, none]
  rfl

theorem Sound.primary (sound : Sound term) : Sound (Expression.readPrimary term) := by
  intro ls t rest read
  cases ls with
  | nil => cases read
  | cons l ls =>
      rw [Expression.readPrimary] at read
      split at read
      case isTrue group =>
          subst group
          obtain ⟨⟨u, behind⟩, inner, read⟩ := Option.bind_eq_some_iff.mp read
          obtain ⟨more, closed, read⟩ := Option.bind_eq_some_iff.mp read
          cases read
          obtain rfl := readExactly_eq_some_iff.mp closed
          have spans := sound ls t _ inner
          refine ⟨spans.passes.mono.bracket rfl rfl, fun s text => ?_, fun k behind group _ => ?_⟩
          · obtain ⟨literal, alone, denotes⟩ := spans.literal s text
            exact ⟨literal, by rw [ungroup?, if_pos rfl, alone]; rfl, denotes⟩
          · rw [ungroup?, if_pos rfl] at group
            obtain ⟨⟨k', more'⟩, alone, closes⟩ := Option.bind_eq_some_iff.mp group
            obtain ⟨behind', closes, same⟩ := Option.map_eq_some_iff.mp closes
            cases same
            obtain rfl := readExactly_eq_some_iff.mp closes
            obtain ⟨same, literal⟩ := spans.told k _ alone (.inr rfl)
            exact ⟨(List.cons.inj same).2, literal⟩
      split at read
      case isTrue list =>
          subst list
          obtain ⟨⟨items, behind⟩, inner, same⟩ := Option.map_eq_some_iff.mp read
          cases same
          have holds : Holds (.list items) (foundIn conditionsIn items) :=
            ⟨by rw [← conditionsInEach_eq]; rfl, by simp⟩
          exact holds.spans ((sound.within.readBracketed inner).bracket rfl rfl) rfl
      split at read
      case isTrue map =>
          subst map
          obtain ⟨⟨entries, behind⟩, inner, same⟩ := Option.map_eq_some_iff.mp read
          cases same
          have holds : Holds (.map entries)
              (foundIn (fun e => conditionsIn e.1 ++ conditionsIn e.2) entries) :=
            ⟨by rw [← conditionsInEntries_eq]; rfl, by simp⟩
          have inside := (sound.within.readEntry sound.within).readBracketed inner
          exact holds.spans (inside.bracket rfl rfl) rfl
      split at read
      case isTrue point =>
          subst point
          rcases (Option.orElse_eq_some _ _ _).mp read with message | ⟨-, reference⟩
          · exact (sound.message message).2
          · obtain ⟨l, more, rfl, name, ⟨holds, rfl, -⟩ | ⟨inner, args, rfl, arguments, holds⟩⟩ :=
              exists_of_readReference reference
            · exact holds.spans (.member (.inl name) rest) rfl
            · rw [ownCondition_of_point, Found.none_append] at holds
              have inside := sound.within.readArguments arguments
              have brackets := inside.bracket (l := sign "(") rfl rfl
              exact holds.spans ((Passes.member (.inl name) _).skip brackets) rfl
      split at read
      case isTrue => exact sound_readNegative _ t rest read
      case isFalse =>
          rcases (Option.orElse_eq_some _ _ _).mp read with literal | ⟨-, read⟩
          · exact sound_readLiteral _ t rest literal
          rcases (Option.orElse_eq_some _ _ _).mp read with message | ⟨-, reference⟩
          · exact (sound.message message).1
          · obtain ⟨k, more, same, name, form⟩ := exists_of_readReference reference
            cases same
            have apart : ungroup? (l :: ls) = .none :=
              ungroup?_of_kind (by simp [name]) (by simp [name])
            rcases form with ⟨holds, rfl, noCall⟩ | ⟨inner, args, rfl, arguments, holds⟩
            · exact holds.spans (.name name noCall) apart
            · rw [String.empty_append] at holds
              exact holds.spans (sound.call name arguments) apart

end Operands

/-! ## Terms that go on -/

/-- Whether a term is another one, or goes on from it, by the tokens up to the rest, to one that is
no literal. -/
inductive Extends (t : Term) (ls : List Lexeme) : Term → List Lexeme → Prop where
  | refl : Extends t ls t ls
  | more {u : Term} {rest : List Lexeme} {found : Found} (goesOn : ¬ EndsArgument ls)
      (passes : Passes 0 ls rest found) (holds : Holds u (conditionsIn t ++ found)) :
      Extends t ls u rest

section Extends

variable {term one : Reader Term} {t u v : Term} {l : Lexeme} {ls ms rest : List Lexeme}
  {join? : Lexeme → Option (Term → Term → Term)}

theorem Extends.trans (first : Extends t ls u ms) (second : Extends u ms v rest) :
    Extends t ls v rest := by
  cases second with
  | refl => exact first
  | more goesOn passes holds =>
      cases first with
      | refl => exact .more goesOn passes holds
      | more goesOn' passes' holds' =>
          rw [holds'.conditions, Found.append_assoc] at holds
          exact .more goesOn' (passes'.trans passes) holds

theorem Spans.extend (spans : Spans ls t ms) (more : Extends t ms u rest) : Spans ls u rest := by
  cases more with
  | refl => exact spans
  | more goesOn passes holds =>
      refine ⟨?_, fun s same => absurd same (holds.noLiteral _), fun l behind group ends => ?_⟩
      · rw [holds.conditions]
        exact spans.passes.trans passes
      · obtain ⟨rfl, -⟩ := spans.told l behind group ends
        exact absurd ends goesOn

/-- No argument ends before a token that is neither a comma nor a closing parenthesis. -/
theorem not_endsArgument (noComma : l ≠ sign ",") (noParenthesis : l ≠ sign ")") :
    ¬ EndsArgument (l :: ls) := by
  rintro (ends | ends)
  · exact noComma (Option.some.inj ends)
  · exact noParenthesis (Option.some.inj ends)

theorem not_endsArgument_of_plain (plain : l ∉ structural) : ¬ EndsArgument (l :: ls) :=
  not_endsArgument (fun same => plain (same ▸ by decide)) fun same => plain (same ▸ by decide)

theorem holds_select (t : Term) (x : String) : Holds (.select t x) (conditionsIn t ++ .none) :=
  ⟨by rw [conditionsIn, Found.append_none], nofun⟩

theorem holds_index (t i : Term) : Holds (.index t i) (conditionsIn t ++ conditionsIn i) :=
  ⟨rfl, nofun⟩

theorem Sound.members (sound : Sound term) (fuel : Nat)
    (read : Expression.readMembers term fuel t ls = some (u, rest)) : Extends t ls u rest := by
  induction fuel generalizing t ls with
  | zero =>
      cases read
      exact .refl
  | succ fuel ih =>
      cases ls with
      | nil =>
          cases read
          exact .refl
      | cons l ls =>
          rw [Expression.readMembers] at read
          split at read
          case isTrue point =>
              subst point
              dsimp only at read
              split at read
              case h_1 x more called =>
                  obtain ⟨⟨args, behind⟩, arguments, made⟩ := Option.bind_eq_some_iff.mp read
                  obtain ⟨w, made, others⟩ := Option.bind_eq_some_iff.mp made
                  obtain ⟨⟨x', behind'⟩, name, opened⟩ := Option.bind_eq_some_iff.mp called
                  obtain ⟨more', opened, same⟩ := Option.map_eq_some_iff.mp opened
                  cases same
                  obtain rfl := readExactly_eq_some_iff.mp opened
                  obtain ⟨k, rfl, kind, -⟩ := exists_of_readName name
                  have inside := sound.within.readArguments arguments
                  have brackets := inside.bracket (l := sign "(") rfl rfl
                  exact (Extends.more (not_endsArgument (by decide) (by decide))
                    ((Passes.member (.inl kind) _).skip brackets)
                    (holds_makeInvoke made)).trans (ih others)
              case h_2 =>
                  obtain ⟨⟨x, behind⟩, field, others⟩ := Option.bind_eq_some_iff.mp read
                  obtain ⟨k, rfl, kind⟩ := exists_of_readField field
                  exact (Extends.more (not_endsArgument (by decide) (by decide))
                    (.member kind behind) (holds_select t x)).trans (ih others)
          split at read
          case isTrue bracket =>
              subst bracket
              obtain ⟨⟨i, behind⟩, index, closes⟩ := Option.bind_eq_some_iff.mp read
              obtain ⟨more, closed, others⟩ := Option.bind_eq_some_iff.mp closes
              obtain rfl := readExactly_eq_some_iff.mp closed
              have inner := (sound ls i _ index).passes
              exact (Extends.more (not_endsArgument (by decide) (by decide))
                (inner.mono.bracket rfl rfl) (holds_index t i)).trans (ih others)
          case isFalse =>
              cases read
              exact .refl

theorem Sound.member (sound : Sound term) : Sound (Expression.readMember term) := by
  intro ls t rest read
  obtain ⟨⟨u, behind⟩, primary, read⟩ := Option.bind_eq_some_iff.mp read
  exact (sound.primary ls u behind primary).extend (sound.members _ read)

theorem passes_dropRun (plain : l ∉ structural) (quiet : namesQuantifier l = false)
    (ls : List Lexeme) : Passes 0 ls (Expression.dropRun l ls) .none := by
  induction ls with
  | nil => exact .refl 0 []
  | cons k ls ih =>
      by_cases same : k = l
      · subst same
        rw [Expression.dropRun, List.dropWhile_cons_of_pos (by simp)]
        exact (Passes.token plain quiet ls).skip ih
      · rw [Expression.dropRun, List.dropWhile_cons_of_neg (by simpa using same)]
        exact .refl 0 _

theorem Sound.unary (sound : Sound term) : Sound (Expression.readUnary term) := by
  intro ls t rest read
  cases ls with
  | nil => cases read
  | cons l ls =>
      have behind {s : String} (plain : sign s ∉ structural) {u v : Term}
          (member : Expression.readMember term (Expression.dropRun (sign s) ls) = some (u, rest))
          (holds : Holds v (conditionsIn u)) : Spans (sign s :: ls) v rest := by
        have quiet : namesQuantifier (sign s) = false := namesQuantifier_of_kind nofun
        have apart : ungroup? (sign s :: ls) = .none :=
          ungroup?_eq_none (fun same => plain (same ▸ by decide)) nofun
        have passes := (passes_dropRun plain quiet ls).skip (sound.member _ u rest member).passes
        exact holds.spans ((Passes.token plain quiet ls).skip passes) apart
      rw [Expression.readUnary] at read
      split at read
      case isTrue same =>
          subst same
          obtain ⟨⟨u, behind'⟩, member, same⟩ := Option.map_eq_some_iff.mp read
          cases same
          exact behind (by decide) member ⟨rfl, by simp⟩
      split at read
      case isTrue same =>
          subst same
          split at read
          case isTrue => exact sound.member _ t rest read
          case isFalse =>
              obtain ⟨⟨u, behind'⟩, member, same⟩ := Option.map_eq_some_iff.mp read
              cases same
              exact behind (by decide) member ⟨rfl, by simp⟩
      case isFalse => exact sound.member _ t rest read

/-- Whether operators are tokens of their own that join terms to one that is no literal. -/
def Joins (join? : Lexeme → Option (Term → Term → Term)) : Prop :=
  ∀ l join, join? l = some join → l ∉ structural ∧ namesQuantifier l = false ∧
    ∀ t u, Holds (join t u) (conditionsIn t ++ conditionsIn u)

theorem Sound.joined (sound : Sound one) (joins : Joins join?) :
    Sound (Expression.readJoined one join?) := by
  have chain (fuel : Nat) : ∀ t ls u rest,
      Expression.readChain one join? fuel t ls = some (u, rest) → Extends t ls u rest := by
    induction fuel with
    | zero =>
        intro t ls u rest read
        cases read
        exact .refl
    | succ fuel ih =>
        intro t ls u rest read
        cases ls with
        | nil =>
            cases read
            exact .refl
        | cons l ls =>
            rw [Expression.readChain] at read
            split at read
            case h_1 join operator =>
                obtain ⟨⟨v, behind⟩, right, read⟩ := Option.bind_eq_some_iff.mp read
                obtain ⟨plain, quiet, holds⟩ := joins l join operator
                have passes := (Passes.token plain quiet ls).skip (sound ls v behind right).passes
                exact (Extends.more (not_endsArgument_of_plain plain) passes (holds t v)).trans
                  (ih _ _ u rest read)
            case h_2 =>
                cases read
                exact .refl
  intro ls t rest read
  obtain ⟨⟨u, behind⟩, first, read⟩ := Option.bind_eq_some_iff.mp read
  exact (sound ls u behind first).extend (chain _ _ _ _ _ read)

theorem joins_none : Joins fun _ => .none := fun _ _ joins => nomatch joins

theorem Joins.ite {others? : Lexeme → Option (Term → Term → Term)} {k : Lexeme}
    {join : Term → Term → Term} (others : Joins others?)
    (token : k ∉ structural ∧ namesQuantifier k = false)
    (holds : ∀ t u, Holds (join t u) (conditionsIn t ++ conditionsIn u)) :
    Joins fun l => if l = k then some join else others? l := by
  intro l join' joins
  dsimp only at joins
  split at joins
  case isTrue same =>
      cases joins
      exact ⟨same ▸ token.1, same ▸ token.2, holds⟩
  case isFalse => exact others l join' joins

theorem joins_binary {op : Expression.Operator} {k : Lexeme}
    {others? : Lexeme → Option (Term → Term → Term)}
    (token : k ∉ structural ∧ namesQuantifier k = false) (others : Joins others?) :
    Joins fun l => if l = k then some (.binary op) else others? l :=
  others.ite token fun _ _ => ⟨rfl, nofun⟩

theorem joins_product? : Joins Expression.product? :=
  joins_binary (by decide) <| joins_binary (by decide) <| joins_binary (by decide) joins_none

theorem joins_sum? : Joins Expression.sum? :=
  joins_binary (by decide) <| joins_binary (by decide) joins_none

theorem joins_relation? : Joins Expression.relation? :=
  joins_binary (by decide) <| joins_binary (by decide) <| joins_binary (by decide) <|
    joins_binary (by decide) <| joins_binary (by decide) <| joins_binary (by decide) <|
      joins_binary (by decide) joins_none

theorem joins_conjunction? : Joins Expression.conjunction? :=
  joins_none.ite (by decide) fun _ _ => ⟨rfl, nofun⟩

theorem joins_disjunction? : Joins Expression.disjunction? :=
  joins_none.ite (by decide) fun _ _ => ⟨rfl, nofun⟩

theorem Sound.disjunction (sound : Sound term) : Sound (Expression.readDisjunction term) :=
  have products := sound.unary.joined joins_product?
  have relations := (products.joined joins_sum?).joined joins_relation?
  (relations.joined joins_conjunction?).joined joins_disjunction?

end Extends

/-! ## Whole terms -/

theorem sound_readTerm (depth : Nat) : Sound (Expression.readTerm depth) := by
  induction depth with
  | zero => exact fun _ _ _ read => nomatch read
  | succ depth ih =>
      intro ls t rest read
      obtain ⟨⟨test, behind⟩, first, read⟩ := Option.bind_eq_some_iff.mp read
      have spans := ih.disjunction ls test behind first
      dsimp only at read
      split at read
      case h_1 more question =>
          obtain ⟨⟨u, behind'⟩, second, read⟩ := Option.bind_eq_some_iff.mp read
          obtain ⟨more', colon, read⟩ := Option.bind_eq_some_iff.mp read
          obtain ⟨⟨v, behind''⟩, third, read⟩ := Option.bind_eq_some_iff.mp read
          cases read
          obtain rfl := readExactly_eq_some_iff.mp question
          obtain rfl := readExactly_eq_some_iff.mp colon
          have plain : sign "?" ∉ structural ∧ sign ":" ∉ structural := by decide
          have thenPart := (Passes.token plain.1 rfl more).skip
            (ih.disjunction more u _ second).passes
          have elsePart := (Passes.token plain.2 rfl more').skip (ih more' v _ third).passes
          exact spans.extend (.more (not_endsArgument_of_plain plain.1) (thenPart.trans elsePart)
            ⟨rfl, nofun⟩)
      case h_2 =>
          cases read
          exact spans

/-- **The literals that the calls within a term have as element conditions are written in its
text**, in the same order, and nothing else is written there if no message is constructed. -/
theorem writtenConditions_of_parse? {condition : String} {t : Term}
    (parsed : Expression.parse? condition = some t) :
    (conditionsIn t).Among (writtenConditions condition) := by
  obtain ⟨ls, split, read⟩ := Option.bind_eq_some_iff.mp parsed
  obtain ⟨⟨u, rest⟩, read, ends⟩ := Option.bind_eq_some_iff.mp read
  obtain ⟨none, ends⟩ := Option.ite_none_right_eq_some.mp ends
  cases ends
  obtain rfl : rest = [] := List.isEmpty_iff.mp none
  obtain ⟨all, among, written⟩ := (sound_readTerm _ _ _ _ read).passes.written
  have same : writtenConditions condition = conditionsFrom false (ls.filter Lexeme.isToken) := by
    rw [← Lexeme.lexemes_of_split? split]
    rfl
  rw [same, written, show conditionsFrom false [] = [] from rfl, List.append_nil]
  exact among

end QualityGate.Quantifier
