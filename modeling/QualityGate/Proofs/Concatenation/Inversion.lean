import QualityGate.Proofs.Concatenation.Value

/-!
# Readings from expressions

Whatever expression a line of slots becomes, if it has a term then the line has a reading, and the
term is that of the reading (`Line.exists_reading`). The proof goes through the tokens of the line,
its `Part`s, which the text of the line and the expression have in common. Two names always have a
connective between them (`Separated`), so of all that the grammar of expressions allows only names,
calls without arguments, parentheses and connectives remain. `Inverts` says this of a reader, and
its lemmas follow the readers from operands to whole terms.
-/

namespace QualityGate.Concatenation

open Expression (Lexeme Reader Term sign)
open Formula (Strength)
open Reading (Written Blanks)

/-! ## Parts -/

/-- A token of a concatenation. -/
inductive Part where
  | check (name : String) (named : Configuration.isName name = true)
  | opening
  | closing
  | connective (c : Connective)

namespace Part

/-- The characters of a part. -/
def chars : Part → List Char
  | check name _ => name.toList
  | opening => ['(']
  | closing => [')']
  | connective c => c.chars

/-- The lexeme of a part in the expression over signals. -/
def lexeme (signals : String → Signal) : Part → Lexeme
  | check name _ => ⟨.name, spellSignal signals name⟩
  | opening => sign "("
  | closing => sign ")"
  | connective c => ⟨.sign, c.chars⟩

end Part

/-- Whether no name comes before the next connective. -/
def Nameless : List Part → Prop
  | [] | .connective _ :: _ => True
  | .check _ _ :: _ => False
  | .opening :: rest | .closing :: rest => Nameless rest

/-- Whether every two names have a connective between them. -/
def Separated : List Part → Prop
  | [] => True
  | .check _ _ :: rest => Nameless rest ∧ Separated rest
  | .opening :: rest | .closing :: rest | .connective _ :: rest => Separated rest

theorem Separated.tail {p : Part} {ps : List Part} (h : Separated (p :: ps)) : Separated ps := by
  cases p with
  | check name named => exact h.2
  | opening | closing | connective c => exact h

theorem Separated.right {ps qs : List Part} (h : Separated (ps ++ qs)) : Separated qs := by
  induction ps with
  | nil => exact h
  | cons p ps ih => exact ih h.tail

/-- The texts that parts are spelled as, with blanks of expressions anywhere between them. -/
inductive Spells : List Part → List Char → Prop where
  | nil : Spells [] []
  | blank {ps : List Part} {cs : List Char} {c : Char} (blank : Lexeme.isBlank c = true)
      (rest : Spells ps cs) : Spells ps (c :: cs)
  | part {ps : List Part} {cs : List Char} (p : Part) (rest : Spells ps cs) :
      Spells (p :: ps) (p.chars ++ cs)

theorem Spells.blanks {cs : List Char} (h : Spells [] cs) : Blanks cs := by
  generalize none : ([] : List Part) = ps at h
  induction h with
  | nil => simp [Blanks]
  | blank blank _ ih => exact List.forall_mem_cons.mpr ⟨blank, ih none⟩
  | part => cases none

/-- The text of parts is cut at each of them. -/
theorem Spells.split {ps qs : List Part} {p : Part} {cs : List Char}
    (h : Spells (ps ++ p :: qs) cs) :
    ∃ ds es, Spells ps ds ∧ Spells qs es ∧ cs = ds ++ p.chars ++ es := by
  generalize whole : ps ++ p :: qs = rs at h
  induction h generalizing ps with
  | nil => simp at whole
  | @blank rs cs c blank rest ih =>
      obtain ⟨ds, es, left, right, rfl⟩ := ih whole
      exact ⟨c :: ds, es, left.blank blank, right, rfl⟩
  | @part rs cs r rest ih =>
      cases ps with
      | nil =>
          cases whole
          exact ⟨[], cs, .nil, rest, rfl⟩
      | cons p' ps =>
          obtain ⟨rfl, more⟩ := List.cons.inj whole
          obtain ⟨ds, es, left, right, rfl⟩ := ih more
          exact ⟨p'.chars ++ ds, es, .part p' left, right, by simp⟩

/-- The text of parts starts with the first of them, behind blanks. -/
theorem Spells.head {qs : List Part} {p : Part} {cs : List Char} (h : Spells (p :: qs) cs) :
    ∃ gap es, Blanks gap ∧ Spells qs es ∧ cs = gap ++ p.chars ++ es := by
  rw [← List.nil_append (p :: qs)] at h
  obtain ⟨gap, es, before, rest, text⟩ := h.split
  exact ⟨gap, es, before.blanks, rest, text⟩

/-! ## Readings of parts -/

/-- The parts that are read in some way, by how tightly they hold together. Connectives join from
the left. -/
inductive Formed : Strength → Reading → List Part → Prop where
  | check {name : String} (named : Configuration.isName name = true) :
      Formed .operand (.check name) [.check name named]
  | call {name : String} (named : Configuration.isName name = true) :
      Formed .operand (.call name) [.check name named, .opening, .closing]
  | group {f : Reading} {ps : List Part} (inner : Formed .disjunction f ps) :
      Formed .operand f (.opening :: ps ++ [.closing])
  | conjunction {f : Reading} {ps : List Part} (only : Formed .operand f ps) :
      Formed .conjunction f ps
  | and {f g : Reading} {ps qs : List Part} (left : Formed .conjunction f ps)
      (right : Formed .operand g qs) :
      Formed .conjunction (.and f g) (ps ++ .connective .and :: qs)
  | disjunction {f : Reading} {ps : List Part} (only : Formed .conjunction f ps) :
      Formed .disjunction f ps
  | or {f g : Reading} {ps qs : List Part} (left : Formed .disjunction f ps)
      (right : Formed .conjunction g qs) :
      Formed .disjunction (.or f g) (ps ++ .connective .or :: qs)

section Blanks

variable {spell : String → List Char} {s : Strength} {f : Reading} {cs gap : List Char}

theorem Reading.Written.blanks_before (written : Written spell s f cs) (blanks : Blanks gap) :
    Written spell s f (gap ++ cs) := by
  induction gap with
  | nil => exact written
  | cons c gap ih =>
      obtain ⟨blank, blanks⟩ := List.forall_mem_cons.mp blanks
      exact (ih blanks).before blank

theorem Reading.Written.blanks_behind (written : Written spell s f cs) (blanks : Blanks gap) :
    Written spell s f (cs ++ gap) := by
  induction gap generalizing cs with
  | nil => simpa using written
  | cons c gap ih =>
      obtain ⟨blank, blanks⟩ := List.forall_mem_cons.mp blanks
      have shape : cs ++ c :: gap = (cs ++ [c]) ++ gap := by simp
      rw [shape]
      exact ih (written.behind blank) blanks

end Blanks

/-- A text is read as its parts are. -/
theorem written_of_formed {s : Strength} {f : Reading} {ps : List Part} {cs : List Char}
    (formed : Formed s f ps) (spelled : Spells ps cs) : Written String.toList s f cs := by
  induction formed generalizing cs with
  | check named =>
      obtain ⟨before, behind, left, right, rfl⟩ := spelled.head
      exact ((Written.check named).blanks_before left).blanks_behind right.blanks
  | @call name named =>
      obtain ⟨before, cs, left, opens, rfl⟩ := spelled.head
      obtain ⟨gap, ds, between, closes, rfl⟩ := opens.head
      obtain ⟨inside, behind, empty, right, rfl⟩ := closes.head
      have call : Written String.toList .operand (.call name)
          (name.toList ++ gap ++ '(' :: inside ++ [')']) := .call named between empty
      simpa [Part.chars] using (call.blanks_before left).blanks_behind right.blanks
  | group inner ih =>
      obtain ⟨before, cs, left, opened, rfl⟩ := spelled.head
      obtain ⟨ds, behind, middle, right, rfl⟩ := opened.split
      have group := (ih middle).group
      simpa [Part.chars] using (group.blanks_before left).blanks_behind right.blanks
  | conjunction only ih => exact (ih spelled).conjunction
  | and left right ih ih' =>
      obtain ⟨ds, es, left, right, rfl⟩ := spelled.split
      exact (ih left).and (ih' right).conjunction
  | disjunction only ih => exact (ih spelled).disjunction
  | or left right ih ih' =>
      obtain ⟨ds, es, left, right, rfl⟩ := spelled.split
      exact (ih left).or (ih' right).disjunction

/-! ## The parts of a line -/

section Lines

variable {signals : String → Signal} {ls : List Lexeme}

/-- Pads are cut into parentheses, and the blanks among them are blanks of expressions. -/
theorem exists_parts_of_pads (signals : String → Signal) {pads rest : List Char}
    (all : ∀ c ∈ pads, isPad c = true)
    (tokens : Lexeme.tokens? (pads ++ rest) = some ls) :
    ∃ ps ks, Lexeme.tokens? rest = some ks ∧ ls = ps.map (Part.lexeme signals) ++ ks ∧
      (∀ p ∈ ps, p = .opening ∨ p = .closing) ∧
        ∀ qs cs, Spells qs cs → Spells (ps ++ qs) (pads ++ cs) := by
  induction pads generalizing ls with
  | nil => exact ⟨[], ls, tokens, rfl, by simp, fun _ _ spelled => spelled⟩
  | cons c pads ih =>
      obtain ⟨pad, all⟩ := List.forall_mem_cons.mp all
      have parenthesis {p : Part} (kind : p = .opening ∨ p = .closing) (chars : p.chars = [c])
          (cut : Lexeme.tokens? (c :: (pads ++ rest)) =
            (Lexeme.tokens? (pads ++ rest)).map (p.lexeme signals :: ·)) :
          ∃ ps ks, Lexeme.tokens? rest = some ks ∧ ls = ps.map (Part.lexeme signals) ++ ks ∧
            (∀ p ∈ ps, p = .opening ∨ p = .closing) ∧
              ∀ qs cs, Spells qs cs → Spells (ps ++ qs) (c :: pads ++ cs) := by
        rw [List.cons_append, cut] at tokens
        obtain ⟨more, inner, rfl⟩ := Option.map_eq_some_iff.mp tokens
        obtain ⟨ps, ks, behind, rfl, parentheses, spells⟩ := ih all inner
        refine ⟨p :: ps, ks, behind, rfl, List.forall_mem_cons.mpr ⟨kind, parentheses⟩, ?_⟩
        intro qs cs spelled
        have whole := Spells.part p (spells qs cs spelled)
        rw [chars] at whole
        exact whole
      by_cases opens : c = '('
      · subst opens
        exact parenthesis (.inl rfl) rfl (Lexeme.tokens?_separator _ (by decide))
      by_cases closes : c = ')'
      · subst closes
        exact parenthesis (.inr rfl) rfl (Lexeme.tokens?_separator _ (by decide))
      · have blank : Text.isBlank c = true := by simpa [isPad, opens, closes] using pad
        have own : Lexeme.isBlank c = true := by
          refine Bool.of_not_eq_false fun foreign => ?_
          have none := Lexeme.next_of_foreign blank foreign (pads ++ rest)
          rw [List.cons_append, Lexeme.tokens?_eq_none_of_next none] at tokens
          cases tokens
        rw [List.cons_append, Lexeme.tokens?_blank own] at tokens
        obtain ⟨ps, ks, behind, rfl, parentheses, spells⟩ := ih all tokens
        exact ⟨ps, ks, behind, rfl, parentheses,
          fun qs cs spelled => (spells qs cs spelled).blank own⟩

/-- What parentheses before some parts do not change holds with all of them. -/
theorem append_of_parentheses {P : List Part → Prop} {ps qs : List Part}
    (opening : ∀ {qs}, P qs → P (.opening :: qs)) (closing : ∀ {qs}, P qs → P (.closing :: qs))
    (parentheses : ∀ p ∈ ps, p = .opening ∨ p = .closing) (h : P qs) : P (ps ++ qs) := by
  induction ps with
  | nil => exact h
  | cons p ps ih =>
      obtain ⟨kind, others⟩ := List.forall_mem_cons.mp parentheses
      rcases kind with rfl | rfl
      · exact opening (ih others)
      · exact closing (ih others)

theorem nameless_append {ps qs : List Part} (parentheses : ∀ p ∈ ps, p = .opening ∨ p = .closing)
    (nameless : Nameless qs) : Nameless (ps ++ qs) :=
  append_of_parentheses id id parentheses nameless

theorem separated_append {ps qs : List Part}
    (parentheses : ∀ p ∈ ps, p = .opening ∨ p = .closing) (separated : Separated qs) :
    Separated (ps ++ qs) :=
  append_of_parentheses id id parentheses separated

/-- A name may end before pads. -/
theorem endsName_pads {pads rest : List Char} (all : ∀ c ∈ pads, isPad c = true)
    (ends : Lexeme.EndsName rest) : Lexeme.EndsName (pads ++ rest) := by
  cases pads with
  | nil => exact ends
  | cons c pads =>
      rintro _ ⟨⟩
      have pad := all c List.mem_cons_self
      refine ⟨Bool.eq_false_iff.mpr fun name => ?_, ?_, ?_⟩
      · have char := isNameChar_of_isNameRest (Bool.or_eq_true_iff.mpr (.inl name))
        rw [(isNameChar_iff.mp char).1] at pad
        cases pad
      · rintro rfl
        exact absurd pad (by decide)
      · rintro rfl
        exact absurd pad (by decide)

/-- A slot is cut into its name and parentheses around it. -/
theorem Slot.exists_parts {s : Slot} (named : Configuration.isName s.name = true)
    {rest : List Char} (ends : Lexeme.EndsName rest)
    (tokens : Lexeme.tokens? (s.chars (spellSignal signals) ++ rest) = some ls) :
    ∃ ps ks, Lexeme.tokens? rest = some ks ∧ ls = ps.map (Part.lexeme signals) ++ ks ∧
      (∀ qs, Nameless qs → Separated qs → Separated (ps ++ qs)) ∧
        ∀ qs cs, Spells qs cs → Spells (ps ++ qs) (s.chars String.toList ++ cs) := by
  obtain ⟨c, cs, label, start, nameRest, -⟩ := exists_label_eq (signals s.name)
  rw [Slot.chars, List.append_assoc, List.append_assoc] at tokens
  obtain ⟨before, more, fromName, rfl, opens, spells⟩ :=
    exists_parts_of_pads signals s.before_pads tokens
  rw [spellSignal, label,
    Lexeme.tokens?_name start nameRest (endsName_pads s.behind_pads ends)] at fromName
  obtain ⟨more, fromBehind, rfl⟩ := Option.map_eq_some_iff.mp fromName
  obtain ⟨behind, ks, tokens', rfl, closes, spells'⟩ :=
    exists_parts_of_pads signals s.behind_pads fromBehind
  refine ⟨before ++ .check s.name named :: behind, ks, tokens', ?_, ?_, ?_⟩
  · simp [Part.lexeme, spellSignal, label]
  · intro qs nameless separated
    rw [List.append_assoc]
    exact separated_append opens
      ⟨nameless_append closes nameless, separated_append closes separated⟩
  · intro qs cs spelled
    have name := Spells.part (.check s.name named) (spells' qs cs spelled)
    simpa [Slot.chars, Part.chars] using spells _ _ name

/-- A line that is cut into tokens at all is cut into parts, of which every two names have a
connective between them. -/
theorem Line.exists_parts {l : Line} (named : ∀ name ∈ l.names, Configuration.isName name = true)
    (tokens : Lexeme.tokens? (l.chars (spellSignal signals)) = some ls) :
    ∃ ps, ls = ps.map (Part.lexeme signals) ∧ Separated ps ∧
      Spells ps (l.chars String.toList) := by
  induction l generalizing ls with
  | last s =>
      rw [Line.chars, ← List.append_nil (s.chars _)] at tokens
      obtain ⟨ps, ks, none, rfl, separated, spells⟩ :=
        s.exists_parts (named _ List.mem_cons_self) (by simp [Lexeme.EndsName]) tokens
      cases none
      refine ⟨ps, by simp, ?_, ?_⟩
      · simpa using separated [] trivial trivial
      · simpa [Line.chars] using spells [] [] .nil
  | more s c rest ih =>
      obtain ⟨own, named⟩ := List.forall_mem_cons.mp named
      have ends : Lexeme.EndsName (c.chars ++ rest.chars (spellSignal signals)) := by
        cases c <;> rintro _ ⟨⟩ <;> decide
      have cut : Lexeme.tokens? (c.chars ++ rest.chars (spellSignal signals)) =
          (Lexeme.tokens? (rest.chars (spellSignal signals))).map
            ((Part.connective c).lexeme signals :: ·) := by
        cases c with
        | and => exact Lexeme.tokens?_connective _ (.inl rfl)
        | or => exact Lexeme.tokens?_connective _ (.inr rfl)
      rw [Line.chars, List.append_assoc] at tokens
      obtain ⟨ps, ks, behind, rfl, separated, spells⟩ := s.exists_parts own ends tokens
      rw [cut] at behind
      obtain ⟨ks, others, rfl⟩ := Option.map_eq_some_iff.mp behind
      obtain ⟨qs, rfl, separated', spelled⟩ := ih named others
      refine ⟨ps ++ .connective c :: qs, by simp, separated _ trivial separated', ?_⟩
      simpa [Line.chars, Part.chars] using spells _ _ (Spells.part (.connective c) spelled)

end Lines

/-! ## Reading the parts of a line -/

/-- The term of a reading over signals. -/
def Reading.term (signals : String → Signal) : Reading → Term
  | check name => .name (signals name).label
  | call name => .call (signals name).label []
  | and left right => .and (left.term signals) (right.term signals)
  | or left right => .or (left.term signals) (right.term signals)

section Readers

variable {signals : String → Signal}

/-- Of all signs, parts are only parentheses and connectives. -/
theorem mem_of_lexeme_eq_sign {p : Part} {s : String} (eq : p.lexeme signals = sign s) :
    s ∈ ["(", ")", "&&", "||"] := by
  have chars := congrArg (fun l => String.ofList l.chars) eq
  simp only [sign, String.ofList_toList] at chars
  cases p with
  | check name named => exact absurd (congrArg Lexeme.kind eq) (by simp [Part.lexeme, sign])
  | opening =>
      have same : "(" = s := chars
      simp [← same]
  | closing =>
      have same : ")" = s := chars
      simp [← same]
  | connective c =>
      cases c with
      | and =>
          have same : "&&" = s := chars
          simp [← same]
      | or =>
          have same : "||" = s := chars
          simp [← same]

/-- Parts do not start with another sign. -/
theorem readExactly_part {s : String} (other : s ∉ ["(", ")", "&&", "||"]) (ps : List Part) :
    Expression.readExactly (sign s) (ps.map (Part.lexeme signals)) = none := by
  cases ps with
  | nil => rfl
  | cons p ps => exact if_neg fun eq => other (mem_of_lexeme_eq_sign eq)

/-- Whether a reader that reads parts at all reads the first of them in the given way. -/
def Inverts (signals : String → Signal) (reader : Reader Term)
    (form : Reading → List Part → Prop) : Prop :=
  ∀ ps t rest, Separated ps → reader (ps.map (Part.lexeme signals)) = some (t, rest) →
    ∃ f used left, ps = used ++ left ∧ rest = left.map (Part.lexeme signals) ∧
      t = f.term signals ∧ form f used

/-- Whether a reader reads nothing where no name comes before the next connective. -/
def NeedsName (signals : String → Signal) (reader : Reader Term) : Prop :=
  ∀ ps, Nameless ps → reader (ps.map (Part.lexeme signals)) = none

variable {term one : Reader Term} {form : Reading → List Part → Prop}

/-! ### Operands -/

/-- The sign of a part that is no opening parenthesis starts no operand. -/
theorem readPrimary_of_sign {s : String} (stop : s = ")" ∨ s = "&&" ∨ s = "||")
    (rest : List Lexeme) : Expression.readPrimary term (sign s :: rest) = none := by
  rcases stop with rfl | rfl | rfl <;> rfl

theorem NeedsName.primary (needs : NeedsName signals term) :
    NeedsName signals (Expression.readPrimary term) := by
  intro ps nameless
  cases ps with
  | nil => rfl
  | cons p ps =>
      cases p with
      | check name named => exact nameless.elim
      | opening =>
          have none := needs ps nameless
          simp only [List.map_cons, Part.lexeme, Expression.readPrimary, if_true, none]
          rfl
      | closing => exact readPrimary_of_sign (.inl rfl) _
      | connective c =>
          cases c with
          | and => exact readPrimary_of_sign (.inr (.inl rfl)) _
          | or => exact readPrimary_of_sign (.inr (.inr rfl)) _

/-- Without a name there are no arguments. -/
theorem NeedsName.arguments (needs : NeedsName signals term) {ps : List Part}
    (nameless : Nameless ps) :
    Expression.readArguments term (ps.map (Part.lexeme signals)) = none ∨
      ∃ left, ps = .closing :: left ∧
        Expression.readArguments term (ps.map (Part.lexeme signals)) =
          some ([], left.map (Part.lexeme signals)) := by
  have noList (fuel : Nat) :
      Expression.readCommaList term fuel (ps.map (Part.lexeme signals)) = none := by
    cases fuel with
    | zero => rfl
    | succ fuel =>
        rw [Expression.readCommaList, needs ps nameless]
        rfl
  rw [Expression.readArguments, noList]
  cases ps with
  | nil => exact .inl rfl
  | cons p ps =>
      cases p with
      | closing => exact .inr ⟨ps, rfl, rfl⟩
      | check name named => exact nameless.elim
      | opening => exact .inl rfl
      | connective c => cases c <;> exact .inl rfl

/-- Behind a name there is nothing else than empty parentheses that belongs to it. -/
theorem readReference_inverts (needs : NeedsName signals term) {name : String}
    {named : Configuration.isName name = true} {ps : List Part} {t : Term} {rest : List Lexeme}
    (separated : Separated (.check name named :: ps))
    (read : Expression.readReference term "" ((Part.check name named).lexeme signals ::
      ps.map (Part.lexeme signals)) = some (t, rest)) :
    ∃ f used left, .check name named :: ps = used ++ left ∧
      rest = left.map (Part.lexeme signals) ∧ t = f.term signals ∧ Formed .operand f used := by
  obtain ⟨c, cs, label, start, nameRest, free⟩ := exists_label_eq (signals name)
  have readsName := Expression.readName_of_name free (ps.map (Part.lexeme signals))
  rw [← label] at readsName
  simp only [Part.lexeme, spellSignal, Expression.readReference, readsName, Option.bind_eq_bind,
    Option.bind_some, String.ofList_toList, String.empty_append] at read
  have alone (noCall : Expression.readExactly (sign "(") (ps.map (Part.lexeme signals)) = none) :
      ∃ f used left, .check name named :: ps = used ++ left ∧
        rest = left.map (Part.lexeme signals) ∧ t = f.term signals ∧ Formed .operand f used := by
    rw [noCall] at read
    cases read
    exact ⟨.check name, [.check name named], ps, rfl, rfl, rfl, .check named⟩
  cases ps with
  | nil => exact alone rfl
  | cons p ps =>
      cases p with
      | check other named' => exact separated.1.elim
      | closing => exact alone rfl
      | connective c => exact alone (by cases c <;> rfl)
      | opening =>
          have nameless : Nameless ps := separated.1
          simp only [List.map_cons, Part.lexeme, Expression.readExactly, if_true] at read
          rcases needs.arguments nameless with none | ⟨left, rfl, arguments⟩
          · rw [none] at read
            cases read
          · have made : Expression.makeCall (signals name).label [] =
                some (.call (signals name).label []) := Expression.makeCall_of_other (by simp)
            rw [arguments] at read
            simp only [Option.bind_some, made] at read
            cases read
            exact ⟨.call name, [.check name named, .opening, .closing], left, rfl, rfl, rfl,
              .call named⟩

theorem Inverts.primary (needs : NeedsName signals term)
    (inverts : Inverts signals term (Formed .disjunction)) :
    Inverts signals (Expression.readPrimary term) (Formed .operand) := by
  intro ps t rest separated read
  cases ps with
  | nil => cases read
  | cons p ps =>
      cases p with
      | check name named =>
          obtain ⟨c, cs, label, start, nameRest, free⟩ := exists_label_eq (signals name)
          have noPoint : Expression.readExactly (sign ".") (ps.map (Part.lexeme signals)) = none :=
            readExactly_part (by decide) ps
          have noBrace :
              Expression.readExactly (sign "\x7b") (ps.map (Part.lexeme signals)) = none :=
            readExactly_part (by decide) ps
          have reference : Expression.readPrimary term _ = _ :=
            Expression.readPrimary_of_name free noPoint noBrace
          rw [← label] at reference
          exact readReference_inverts needs separated (reference.symm.trans read)
      | opening =>
          simp only [List.map_cons, Part.lexeme, Expression.readPrimary, if_true] at read
          obtain ⟨⟨u, behind⟩, inner, read⟩ := Option.bind_eq_some_iff.mp read
          obtain ⟨f, used, left, rfl, rfl, rfl, formed⟩ := inverts ps u behind separated inner
          obtain ⟨after, closes, read⟩ := Option.bind_eq_some_iff.mp read
          cases read
          cases left with
          | nil => cases closes
          | cons q left =>
              have closing : q = .closing := by
                cases q with
                | closing => rfl
                | check name named => cases closes
                | opening => cases closes
                | connective c => cases c <;> cases closes
              subst closing
              cases closes
              exact ⟨f, .opening :: used ++ [.closing], left, by simp, rfl, rfl, formed.group⟩
      | closing => cases read
      | connective c => cases c <;> cases read

/-- There are no members behind an operand. -/
theorem readMembers_part (fuel : Nat) (t : Term) (ps : List Part) :
    Expression.readMembers term fuel t (ps.map (Part.lexeme signals)) =
      some (t, ps.map (Part.lexeme signals)) := by
  cases fuel with
  | zero => rfl
  | succ fuel =>
      cases ps with
      | nil => rfl
      | cons p ps =>
          have noPoint : p.lexeme signals ≠ sign "." := fun eq =>
            absurd (mem_of_lexeme_eq_sign eq) (by decide)
          have noBracket : p.lexeme signals ≠ sign "[" := fun eq =>
            absurd (mem_of_lexeme_eq_sign eq) (by decide)
          rw [List.map_cons, Expression.readMembers, if_neg noPoint, if_neg noBracket]

theorem Inverts.member (inverts : Inverts signals (Expression.readPrimary term) form) :
    Inverts signals (Expression.readMember term) form := by
  intro ps t rest separated read
  obtain ⟨⟨u, behind⟩, primary, members⟩ := Option.bind_eq_some_iff.mp read
  obtain ⟨f, used, left, rfl, rfl, rfl, formed⟩ := inverts ps u behind separated primary
  dsimp only at members
  rw [readMembers_part] at members
  cases members
  exact ⟨f, used, left, rfl, rfl, rfl, formed⟩

theorem NeedsName.member (needs : NeedsName signals (Expression.readPrimary term)) :
    NeedsName signals (Expression.readMember term) := by
  intro ps nameless
  rw [Expression.readMember, needs ps nameless]
  rfl

/-- There are no signs before an operand. -/
theorem readUnary_part (ps : List Part) :
    Expression.readUnary term (ps.map (Part.lexeme signals)) =
      Expression.readMember term (ps.map (Part.lexeme signals)) := by
  cases ps with
  | nil => rfl
  | cons p ps =>
      have noNot : p.lexeme signals ≠ sign "!" := fun eq =>
        absurd (mem_of_lexeme_eq_sign eq) (by decide)
      have noMinus : p.lexeme signals ≠ sign "-" := fun eq =>
        absurd (mem_of_lexeme_eq_sign eq) (by decide)
      rw [List.map_cons, Expression.readUnary, if_neg noNot, if_neg noMinus]

/-! ### Operators -/

section Chains

variable {join? : Lexeme → Option (Term → Term → Term)}

theorem NeedsName.joined (needs : NeedsName signals one) :
    NeedsName signals (Expression.readJoined one join?) := by
  intro ps nameless
  rw [Expression.readJoined, needs ps nameless]
  rfl

/-- An operator that no part is joins nothing. -/
theorem Inverts.joined_none (none : ∀ p, join? (Part.lexeme signals p) = .none)
    (inverts : Inverts signals one form) :
    Inverts signals (Expression.readJoined one join?) form := by
  intro ps t rest separated read
  obtain ⟨⟨u, behind⟩, first, chain⟩ := Option.bind_eq_some_iff.mp read
  obtain ⟨f, used, left, rfl, rfl, rfl, formed⟩ := inverts ps u behind separated first
  have stop : ∀ l ∈ (left.map (Part.lexeme signals)).head?, join? l = .none := by
    cases left with
    | nil => simp
    | cons p left =>
        rintro _ ⟨⟩
        exact none p
  dsimp only at chain
  rw [Expression.readChain_of_stop stop] at chain
  cases chain
  exact ⟨f, used, left, rfl, rfl, rfl, formed⟩

variable {c : Connective} {mk : Reading → Reading → Reading} {joinTerms : Term → Term → Term}
  {whole : Reading → List Part → Prop}

/-- A chain goes on as long as its connective follows. -/
theorem readChain_inverts
    (joins : ∀ p join, join? (Part.lexeme signals p) = some join →
      p = .connective c ∧ join = joinTerms)
    (terms : ∀ f g, (mk f g).term signals = joinTerms (f.term signals) (g.term signals))
    (step : ∀ {f g us vs}, whole f us → form g vs → whole (mk f g) (us ++ .connective c :: vs))
    (inverts : Inverts signals one form) {fuel : Nat} {f : Reading} {us ps : List Part} {u : Term}
    {rest : List Lexeme} (start : whole f us) (separated : Separated ps)
    (read : Expression.readChain one join? fuel (f.term signals) (ps.map (Part.lexeme signals)) =
      some (u, rest)) :
    ∃ g used left, ps = used ++ left ∧ rest = left.map (Part.lexeme signals) ∧
      u = g.term signals ∧ whole g (us ++ used) := by
  have ends {f : Reading} {us ps : List Part} (start : whole f us)
      (read : some (f.term signals, ps.map (Part.lexeme signals)) = some (u, rest)) :
      ∃ g used left, ps = used ++ left ∧ rest = left.map (Part.lexeme signals) ∧
        u = g.term signals ∧ whole g (us ++ used) := by
    cases read
    exact ⟨f, [], ps, rfl, rfl, rfl, by simpa using start⟩
  induction fuel generalizing f us ps with
  | zero => exact ends start read
  | succ fuel ih =>
      cases ps with
      | nil => exact ends start read
      | cons p ps =>
          rw [List.map_cons, Expression.readChain] at read
          cases joined : join? (Part.lexeme signals p) with
          | none =>
              rw [joined] at read
              exact ends start read
          | some join =>
              obtain ⟨rfl, rfl⟩ := joins p join joined
              rw [joined] at read
              obtain ⟨⟨v, behind⟩, operand, chain⟩ := Option.bind_eq_some_iff.mp read
              obtain ⟨g, used, left, rfl, rfl, rfl, formed⟩ :=
                inverts ps v behind separated.tail operand
              dsimp only at chain
              rw [← terms] at chain
              obtain ⟨h, more, left, rfl, rfl, rfl, all⟩ :=
                ih (step start formed) separated.tail.right chain
              refine ⟨h, .connective c :: used ++ more, left, by simp, rfl, rfl, ?_⟩
              simpa using all

theorem Inverts.joined
    (joins : ∀ p join, join? (Part.lexeme signals p) = some join →
      p = .connective c ∧ join = joinTerms)
    (terms : ∀ f g, (mk f g).term signals = joinTerms (f.term signals) (g.term signals))
    (single : ∀ {f us}, form f us → whole f us)
    (step : ∀ {f g us vs}, whole f us → form g vs → whole (mk f g) (us ++ .connective c :: vs))
    (inverts : Inverts signals one form) :
    Inverts signals (Expression.readJoined one join?) whole := by
  intro ps t rest separated read
  obtain ⟨⟨u, behind⟩, first, chain⟩ := Option.bind_eq_some_iff.mp read
  obtain ⟨f, used, left, rfl, rfl, rfl, formed⟩ := inverts ps u behind separated first
  obtain ⟨g, more, left, rfl, rfl, rfl, all⟩ :=
    readChain_inverts joins terms step inverts (single formed) separated.right chain
  exact ⟨g, used ++ more, left, by simp, rfl, rfl, all⟩

end Chains

/-! ### Whole terms -/

theorem NeedsName.disjunction (needs : NeedsName signals term) :
    NeedsName signals (Expression.readDisjunction term) := by
  have unary : NeedsName signals (Expression.readUnary term) := by
    intro ps nameless
    rw [readUnary_part]
    exact needs.primary.member ps nameless
  exact unary.joined.joined.joined.joined.joined

/-- Parts have no operators besides connectives. -/
theorem operator_part (p : Part) : Expression.product? (p.lexeme signals) = none ∧
    Expression.sum? (p.lexeme signals) = none ∧
      Expression.relation? (p.lexeme signals) = none := by
  cases p with
  | check name named =>
      simp only [Part.lexeme, spellSignal]
      cases signals name <;> exact ⟨rfl, rfl, rfl⟩
  | opening | closing => exact ⟨rfl, rfl, rfl⟩
  | connective c => cases c <;> exact ⟨rfl, rfl, rfl⟩

/-- Only a connective is spelled as one. -/
theorem eq_connective_of_lexeme {p : Part} {c : Connective}
    (eq : p.lexeme signals = (Part.connective c).lexeme signals) : p = .connective c := by
  cases p with
  | check name named => exact absurd (congrArg Lexeme.kind eq) (by simp [Part.lexeme])
  | opening | closing => cases c <;> cases congrArg Lexeme.chars eq
  | connective d =>
      cases c <;> cases d
      case and.and | or.or => rfl
      all_goals cases congrArg Lexeme.chars eq

theorem conjunction?_part {p : Part} {join : Term → Term → Term}
    (joins : Expression.conjunction? (p.lexeme signals) = some join) :
    p = .connective .and ∧ join = .and := by
  unfold Expression.conjunction? at joins
  split at joins
  case isTrue eq => exact ⟨eq_connective_of_lexeme eq, (Option.some.inj joins).symm⟩
  case isFalse => cases joins

theorem disjunction?_part {p : Part} {join : Term → Term → Term}
    (joins : Expression.disjunction? (p.lexeme signals) = some join) :
    p = .connective .or ∧ join = .or := by
  unfold Expression.disjunction? at joins
  split at joins
  case isTrue eq => exact ⟨eq_connective_of_lexeme eq, (Option.some.inj joins).symm⟩
  case isFalse => cases joins

theorem Inverts.disjunction (needs : NeedsName signals term)
    (inverts : Inverts signals term (Formed .disjunction)) :
    Inverts signals (Expression.readDisjunction term) (Formed .disjunction) := by
  have unary : Inverts signals (Expression.readUnary term) (Formed .operand) := by
    intro ps t rest separated read
    rw [readUnary_part] at read
    exact (inverts.primary needs).member ps t rest separated read
  have comparison : Inverts signals (Expression.readComparison term) (Formed .operand) :=
    ((unary.joined_none fun p => (operator_part p).1).joined_none
      fun p => (operator_part p).2.1).joined_none fun p => (operator_part p).2.2
  have and (f g : Reading) : (f.and g).term signals = .and (f.term signals) (g.term signals) := rfl
  have or (f g : Reading) : (f.or g).term signals = .or (f.term signals) (g.term signals) := rfl
  have conjunction : Inverts signals (Expression.readConjunction term) (Formed .conjunction) :=
    comparison.joined (fun _ _ => conjunction?_part) and .conjunction .and
  exact conjunction.joined (fun _ _ => disjunction?_part) or .disjunction .or

theorem needsName_readTerm (n : Nat) : NeedsName signals (Expression.readTerm n) := by
  induction n with
  | zero => exact fun _ _ => rfl
  | succ n ih =>
      intro ps nameless
      rw [Expression.readTerm, ih.disjunction ps nameless]
      rfl

/-- Parts that are read as a term are read as a reading, and the term is that of the reading. -/
theorem inverts_readTerm (n : Nat) :
    Inverts signals (Expression.readTerm n) (Formed .disjunction) := by
  induction n with
  | zero => exact fun _ _ _ _ read => nomatch read
  | succ n ih =>
      intro ps t rest separated read
      obtain ⟨⟨u, behind⟩, disjunction, read⟩ := Option.bind_eq_some_iff.mp read
      obtain ⟨f, used, left, rfl, rfl, rfl, formed⟩ :=
        ih.disjunction (needsName_readTerm n) ps u behind separated disjunction
      dsimp only at read
      rw [readExactly_part (by decide) left] at read
      cases read
      exact ⟨f, used, left, rfl, rfl, rfl, formed⟩

/-- A term of a reading means the truth of the reading. -/
theorem means_term (f : Reading) : signalMeaning.means (f.term signals) (f.truthOf signals) := by
  induction f with
  | check name => exact means_signal (signals name)
  | call name => exact means_call (signals name)
  | and left right ih ih' => exact signalMeaning.and_means ih ih'
  | or left right ih ih' => exact signalMeaning.or_means ih ih'

/-- **If the expression that a line becomes has a term, the line has a reading**, and the term is
that of the reading. -/
theorem Line.exists_reading {l : Line} {t : Term}
    (named : ∀ name ∈ l.names, Configuration.isName name = true)
    (parsed : Expression.parse? (String.ofList (l.chars (spellSignal signals))) = some t) :
    ∃ f, Written String.toList .disjunction f (l.chars String.toList) ∧ t = f.term signals := by
  obtain ⟨lexemes, cuts, parsed⟩ := Option.bind_eq_some_iff.mp parsed
  obtain ⟨⟨u, rest⟩, read, ends⟩ := Option.bind_eq_some_iff.mp parsed
  rw [String.toList_ofList] at cuts
  have tokens : Lexeme.tokens? (l.chars (spellSignal signals)) =
      some (lexemes.filter Lexeme.isToken) := by rw [Lexeme.tokens?, cuts, Option.map_some]
  obtain ⟨ps, parts, separated, spelled⟩ := Line.exists_parts named tokens
  rw [parts] at read
  obtain ⟨f, used, left, rfl, rfl, rfl, formed⟩ := inverts_readTerm _ ps u rest separated read
  cases left with
  | nil =>
      cases ends
      rw [List.append_nil] at spelled
      exact ⟨f, written_of_formed formed spelled, rfl⟩
  | cons p left => cases ends

end Readers

end QualityGate.Concatenation
