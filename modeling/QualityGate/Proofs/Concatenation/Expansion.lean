import QualityGate.Proofs.Concatenation.Names
import QualityGate.Proofs.Concatenation.Reading
import QualityGate.Proofs.Expression.Token
import QualityGate.Proofs.Text.Character

/-!
# Replacing the names in a concatenation

A text that is read in some way is a line of slots with signs between them: each slot holds the name
of a check, with blanks and parentheses around it. The text is cut at its signs into these slots
(`split_append`, `split_sign`), and in each of them the name is found and replaced by a signal
(`Slot.respellSegment_chars`). So what `expand` makes of the text is read in the same way, written
over signals (`Reading.expand_of_written`).
-/

namespace QualityGate.Concatenation

open Formula (Strength)
open Reading (Written)

/-! ## Slots -/

/-- Whether the character may stand beside the name in a segment. -/
def isPad (c : Char) : Bool := Text.isBlank c || c == '(' || c == ')'

/-- The name of a check with what stands around it in a segment. -/
structure Slot where
  before : List Char
  name : String
  behind : List Char
  before_pads : ∀ c ∈ before, isPad c = true
  behind_pads : ∀ c ∈ behind, isPad c = true

/-- What names consist of: no pads, and no characters of signs. -/
def isNameChar (c : Char) : Bool := !isPad c && c != '&' && c != '|'

theorem isNameChar_iff {c : Char} :
    isNameChar c = true ↔ isPad c = false ∧ c ≠ '&' ∧ c ≠ '|' := by
  simp [isNameChar, and_assoc]

/-- The characters of names of checks are none of pads or signs. -/
theorem isNameChar_of_isNameRest {c : Char} (rest : (Text.isNameRest c || c == '-') = true) :
    isNameChar c = true := by
  have range := Text.toNat_of_isNameRest rest
  have same (a : Char) : (c == a) = decide (c.toNat = a.toNat) := by
    rw [Bool.eq_iff_iff, beq_iff_eq, decide_eq_true_iff, Char.toNat_inj]
  simp [isNameChar, isPad, Text.isBlank, same, bne]
  omega

theorem isNameChar_of_isName {name : String} (named : Configuration.isName name = true) :
    name.toList ≠ [] ∧ ∀ c ∈ name.toList, isNameChar c = true := by
  unfold Configuration.isName at named
  cases h : name.toList with
  | nil => simp [h] at named
  | cons c cs =>
      rw [h] at named
      obtain ⟨start, all⟩ := Bool.and_eq_true_iff.mp named
      refine ⟨List.cons_ne_nil c cs, List.forall_mem_cons.mpr ⟨isNameChar_of_isNameRest ?_,
        fun d member => isNameChar_of_isNameRest ?_⟩⟩
      · simp [Text.isNameRest, start]
      · exact List.all_eq_true.mp all d member

/-- The blanks of expressions may stand beside a name. -/
theorem isPad_of_isBlank {c : Char} (blank : Expression.Lexeme.isBlank c = true) :
    isPad c = true := by
  rcases Expression.Lexeme.eq_of_isBlank blank with rfl | rfl | rfl | rfl | rfl <;> decide

section Segments

variable {before name behind : List Char}

/-- Trimming leaves the name in a segment, if it neither starts nor ends with a pad. -/
theorem nameOf_pads (before_pads : ∀ c ∈ before, isPad c = true)
    (behind_pads : ∀ c ∈ behind, isPad c = true) (head : ∀ c ∈ name.head?, isPad c = false)
    (last : ∀ c ∈ name.getLast?, isPad c = false) : nameOf (before ++ name ++ behind) = name := by
  have behind_pads' : ∀ c ∈ behind.reverse, isPad c = true := fun c member =>
    behind_pads c (List.mem_reverse.mp member)
  have stays {c : Char} (cs : List Char) (start : isPad c = false) :
      (c :: cs).dropWhile isPad = c :: cs := List.dropWhile_cons_of_neg (by simp [start])
  have front : nameOf (before ++ name ++ behind) =
      (((name ++ behind).dropWhile isPad).reverse.dropWhile isPad).reverse := by
    rw [List.append_assoc]
    exact congrArg (fun cs => (cs.reverse.dropWhile isPad).reverse)
      (List.dropWhile_append_of_pos before_pads)
  cases name with
  | nil =>
      have none : behind.dropWhile isPad = [] := by
        simpa using @List.dropWhile_append_of_pos _ _ _ [] behind_pads
      rw [List.nil_append, none] at front
      exact front
  | cons c cs =>
      obtain ⟨ds, d, whole⟩ : ∃ ds d, c :: cs = ds ++ [d] :=
        ⟨_, _, (List.dropLast_concat_getLast (List.cons_ne_nil c cs)).symm⟩
      have stop : isPad d = false := last d (by simp [whole])
      calc nameOf (before ++ (c :: cs) ++ behind)
          = (((c :: cs) ++ behind).reverse.dropWhile isPad).reverse := by
            rw [front, List.cons_append, stays _ (head c rfl)]
        _ = ((c :: cs).reverse.dropWhile isPad).reverse := by
            rw [List.reverse_append, List.dropWhile_append_of_pos behind_pads']
        _ = c :: cs := by
            rw [whole, List.reverse_append, List.reverse_singleton, List.singleton_append,
              stays _ stop, List.reverse_cons, List.reverse_reverse]

/-- Replacing the first occurrence of a name in a segment replaces the name itself: no pad stands
before it that the name starts with. -/
theorem replaceFirst_pads {label : List Char} (before_pads : ∀ c ∈ before, isPad c = true)
    (nonempty : name ≠ []) (unpadded : isPad (name.head nonempty) = false) :
    Text.replaceFirst name label (before ++ name ++ behind) = before ++ label ++ behind := by
  obtain ⟨d, ds, rfl⟩ := List.exists_cons_of_ne_nil nonempty
  induction before with
  | nil =>
      have here : (d :: ds).isPrefixOf (d :: ds ++ behind) = true :=
        List.isPrefixOf_iff_prefix.mpr (List.prefix_append _ behind)
      rw [List.cons_append] at here
      rw [List.nil_append, List.cons_append, Text.replaceFirst, if_pos here, ← List.cons_append,
        List.drop_left, List.nil_append]
  | cons c before ih =>
      obtain ⟨pad, before_pads⟩ := List.forall_mem_cons.mp before_pads
      have other : d ≠ c := by
        rintro rfl
        rw [List.head_cons, pad] at unpadded
        cases unpadded
      have elsewhere : (d :: ds).isPrefixOf (c :: (before ++ (d :: ds) ++ behind)) = false := by
        simp [List.isPrefixOf, other]
      rw [List.cons_append, List.cons_append, Text.replaceFirst, elsewhere]
      simpa using ih before_pads

end Segments

/-- The spelling of the name of a check as its signal. -/
def spellSignal (signals : String → Signal) (name : String) : List Char :=
  (signals name).label.toList

/-- A segment with another spelling of its name. -/
def respellSegment (spell : String → List Char) (segment : List Char) : List Char :=
  Text.replaceFirst (nameOf segment) (spell (nameIn segment)) segment

theorem expandSegment_of_known {registry : Registry} {signals : String → Signal}
    {segment : List Char}
    (known : signalOf registry (nameIn segment) = .ok (signals (nameIn segment))) :
    expandSegment registry segment = .ok (respellSegment (spellSignal signals) segment) := by
  rw [expandSegment, known]
  rfl

namespace Slot

/-- The segment of a slot. -/
def chars (spell : String → List Char) (s : Slot) : List Char :=
  s.before ++ spell s.name ++ s.behind

/-- A slot with one more pad before its name. -/
def addBefore (s : Slot) (c : Char) (pad : isPad c = true) : Slot :=
  { s with before := c :: s.before, before_pads := List.forall_mem_cons.mpr ⟨pad, s.before_pads⟩ }

/-- A slot with one more pad behind its name. -/
def addBehind (s : Slot) (c : Char) (pad : isPad c = true) : Slot :=
  { s with
    behind := s.behind ++ [c]
    behind_pads := List.forall_mem_append.mpr ⟨s.behind_pads, by simpa using pad⟩ }

section

variable {s : Slot}

/-- Trimming leaves the name in a slot. -/
theorem nameOf_chars (named : Configuration.isName s.name = true) :
    nameOf (s.chars String.toList) = s.name.toList := by
  obtain ⟨-, chars⟩ := isNameChar_of_isName named
  have unpadded (c : Char) (member : c ∈ s.name.toList) : isPad c = false :=
    (isNameChar_iff.mp (chars c member)).1
  exact nameOf_pads s.before_pads s.behind_pads
    (fun c head => unpadded c (List.mem_of_mem_head? head))
    fun c last => unpadded c (List.mem_of_mem_getLast? last)

/-- The name in a slot is what another spelling replaces. -/
theorem respellSegment_chars (named : Configuration.isName s.name = true)
    (spell : String → List Char) :
    respellSegment spell (s.chars String.toList) = s.chars spell := by
  obtain ⟨nonempty, chars⟩ := isNameChar_of_isName named
  have start := (isNameChar_iff.mp (chars _ (List.head_mem nonempty))).1
  rw [respellSegment, nameIn, nameOf_chars named, String.ofList_toList]
  exact replaceFirst_pads s.before_pads nonempty start

/-- There is no sign in a segment. -/
theorem unsigned_chars (named : Configuration.isName s.name = true) :
    ∀ c ∈ s.chars String.toList, c ≠ '&' ∧ c ≠ '|' := by
  have pads {c : Char} (pad : isPad c = true) : c ≠ '&' ∧ c ≠ '|' := by
    constructor <;> rintro rfl <;> exact absurd pad (by decide)
  obtain ⟨-, chars⟩ := isNameChar_of_isName named
  intro c member
  rcases List.mem_append.mp member with member | member
  · rcases List.mem_append.mp member with member | member
    · exact pads (s.before_pads c member)
    · exact (isNameChar_iff.mp (chars c member)).2
  · exact pads (s.behind_pads c member)

end

end Slot

/-! ## Lines -/

/-- Slots with signs between them. -/
inductive Line where
  | last (s : Slot)
  | more (s : Slot) (sign : Connective) (rest : Line)

namespace Line

/-- The text of a line. -/
def chars (spell : String → List Char) : Line → List Char
  | last s => s.chars spell
  | more s sign rest => s.chars spell ++ sign.chars ++ rest.chars spell

/-- The names in a line, in order. -/
def names : Line → List String
  | last s => [s.name]
  | more s _ rest => s.name :: rest.names

/-- A line with one more pad before its first name. -/
def addBefore (c : Char) (pad : isPad c = true) : Line → Line
  | last s => last (s.addBefore c pad)
  | more s sign rest => more (s.addBefore c pad) sign rest

/-- A line with one more pad behind its last name. -/
def addBehind (c : Char) (pad : isPad c = true) : Line → Line
  | last s => last (s.addBehind c pad)
  | more s sign rest => more s sign (rest.addBehind c pad)

/-- Two lines with a sign between them. -/
def append : Line → Connective → Line → Line
  | last s, sign, right => more s sign right
  | more s first rest, sign, right => more s first (rest.append sign right)

section

variable {spell : String → List Char} {c : Char} {pad : isPad c = true} {sign : Connective}

@[simp] theorem chars_addBefore (l : Line) :
    (l.addBefore c pad).chars spell = c :: l.chars spell := by
  cases l <;> rfl

@[simp] theorem names_addBefore (l : Line) : (l.addBefore c pad).names = l.names := by
  cases l <;> rfl

@[simp] theorem chars_addBehind (l : Line) :
    (l.addBehind c pad).chars spell = l.chars spell ++ [c] := by
  induction l with
  | last s => simp [addBehind, chars, Slot.chars, Slot.addBehind]
  | more s sign rest ih => simp [addBehind, chars, ih]

@[simp] theorem names_addBehind (l : Line) : (l.addBehind c pad).names = l.names := by
  induction l with
  | last s => rfl
  | more s sign rest ih => simp [addBehind, names, ih]

@[simp] theorem chars_append (l right : Line) :
    (l.append sign right).chars spell = l.chars spell ++ sign.chars ++ right.chars spell := by
  induction l with
  | last s => rfl
  | more s first rest ih => simp [append, chars, ih]

@[simp] theorem names_append (l right : Line) :
    (l.append sign right).names = l.names ++ right.names := by
  induction l with
  | last s => rfl
  | more s first rest ih => simp [append, names, ih]

end

/-- A text that is read in some way is a line, and written over other names the line is read in the
same way. -/
theorem exists_of_written {spell : String → List Char} {strength : Strength} {f : Reading}
    {cs : List Char} (written : Written spell strength f cs) :
    ∃ l : Line, l.names = f.names ∧ l.chars spell = cs ∧
      ∀ spell', Written spell' strength f (l.chars spell') := by
  induction written with
  | @check name named =>
      refine ⟨.last ⟨[], name, [], by simp, by simp⟩, rfl, by simp [chars, Slot.chars],
        fun spell' => ?_⟩
      simpa [chars, Slot.chars] using Written.check named
  | @call name gap inside named blanks empty =>
      have pads : ∀ c ∈ gap ++ '(' :: inside ++ [')'], isPad c = true := by
        simp only [List.forall_mem_append, List.forall_mem_cons]
        exact ⟨⟨fun c member => isPad_of_isBlank (blanks c member), rfl,
          fun c member => isPad_of_isBlank (empty c member)⟩, rfl, by simp⟩
      refine ⟨.last ⟨[], name, gap ++ '(' :: inside ++ [')'], by simp, pads⟩, rfl,
        by simp [chars, Slot.chars], fun spell' => ?_⟩
      simpa [chars, Slot.chars] using Written.call named blanks empty
  | group inner ih =>
      obtain ⟨l, names, rfl, written⟩ := ih
      have opening : isPad '(' = true := by decide
      have closing : isPad ')' = true := by decide
      refine ⟨(l.addBefore '(' opening).addBehind ')' closing, by simpa using names, by simp,
        fun spell' => ?_⟩
      simpa using (written spell').group
  | before blank text ih =>
      obtain ⟨l, names, rfl, written⟩ := ih
      refine ⟨l.addBefore _ (isPad_of_isBlank blank), by simpa using names, by simp,
        fun spell' => ?_⟩
      simpa using (written spell').before blank
  | behind blank text ih =>
      obtain ⟨l, names, rfl, written⟩ := ih
      refine ⟨l.addBehind _ (isPad_of_isBlank blank), by simpa using names, by simp,
        fun spell' => ?_⟩
      simpa using (written spell').behind blank
  | conjunction only ih =>
      obtain ⟨l, names, rfl, written⟩ := ih
      exact ⟨l, names, rfl, fun spell' => (written spell').conjunction⟩
  | and left right ih ih' =>
      obtain ⟨l, names, rfl, written⟩ := ih
      obtain ⟨r, names', rfl, written'⟩ := ih'
      refine ⟨l.append .and r, by simp [names, names', Reading.names], by simp, fun spell' => ?_⟩
      simpa using (written spell').and (written' spell')
  | disjunction only ih =>
      obtain ⟨l, names, rfl, written⟩ := ih
      exact ⟨l, names, rfl, fun spell' => (written spell').disjunction⟩
  | or left right ih ih' =>
      obtain ⟨l, names, rfl, written⟩ := ih
      obtain ⟨r, names', rfl, written'⟩ := ih'
      refine ⟨l.append .or r, by simp [names, names', Reading.names], by simp, fun spell' => ?_⟩
      simpa using (written spell').or (written' spell')

end Line

/-! ## Texts -/

/-- The characters of the expression over signals that a text stands for. -/
def expandText (registry : Registry) (cs : List Char) : Except Failure (List Char) := do
  let (first, others) := split cs
  let expanded ← expandSegment registry first
  let rest ← expandOthers registry others
  return expanded ++ rest

theorem expand_eq (registry : Registry) (condition : String) :
    expand registry condition = (expandText registry condition.toList).map String.ofList := by
  simp only [expand, expandText]
  cases expandSegment registry (split condition.toList).1 with
  | error e => rfl
  | ok expanded => cases expandOthers registry (split condition.toList).2 <;> rfl

/-- A text is not cut before its first sign. -/
theorem split_append {cs : List Char} (unsigned : ∀ c ∈ cs, c ≠ '&' ∧ c ≠ '|')
    (rest : List Char) : split (cs ++ rest) = (cs ++ (split rest).1, (split rest).2) := by
  induction cs with
  | nil => rfl
  | cons c cs ih =>
      obtain ⟨⟨noAnd, noOr⟩, unsigned⟩ := List.forall_mem_cons.mp unsigned
      rw [List.cons_append, split]
      · rw [ih unsigned]
        rfl
      · exact fun rest eq => absurd eq noAnd
      · exact fun rest eq => absurd eq noOr

theorem split_sign (sign : Connective) (rest : List Char) :
    split (sign.chars ++ rest) = ([], (sign, (split rest).1) :: (split rest).2) := by
  cases sign <;> rfl

/-- The names in the segments of a text. -/
def namesOf (cs : List Char) : List String :=
  ((split cs).1 :: (split cs).2.map (·.2)).map fun segment => String.ofList (nameOf segment)

/-- A text with another spelling of its names. -/
def respell (spell : String → List Char) (cs : List Char) : List Char :=
  respellSegment spell (split cs).1 ++
    (split cs).2.flatMap fun other => other.1.chars ++ respellSegment spell other.2

/-- The names in the text of a line are those of the line. -/
theorem namesOf_chars {l : Line} (named : ∀ name ∈ l.names, Configuration.isName name = true) :
    namesOf (l.chars String.toList) = l.names := by
  induction l with
  | last s =>
      have own := named _ List.mem_cons_self
      have cut := split_append (s.unsigned_chars own) []
      rw [List.append_nil] at cut
      simp [namesOf, Line.chars, Line.names, cut, split, s.nameOf_chars own]
  | more s sign rest ih =>
      obtain ⟨own, named⟩ := List.forall_mem_cons.mp named
      have cut := split_append (s.unsigned_chars own) (sign.chars ++ rest.chars String.toList)
      rw [split_sign, List.append_nil] at cut
      have others := ih named
      rw [namesOf] at others ⊢
      rw [Line.chars, List.append_assoc, cut, List.map_cons, s.nameOf_chars own,
        String.ofList_toList, Line.names, ← others, List.map_cons]

/-- In a line the name in each slot is what another spelling replaces. -/
theorem respell_chars {l : Line} (named : ∀ name ∈ l.names, Configuration.isName name = true)
    (spell : String → List Char) : respell spell (l.chars String.toList) = l.chars spell := by
  induction l with
  | last s =>
      have own := named _ List.mem_cons_self
      have cut := split_append (s.unsigned_chars own) []
      rw [List.append_nil] at cut
      simp [respell, Line.chars, cut, split, s.respellSegment_chars own]
  | more s sign rest ih =>
      obtain ⟨own, named⟩ := List.forall_mem_cons.mp named
      have cut := split_append (s.unsigned_chars own) (sign.chars ++ rest.chars String.toList)
      rw [split_sign, List.append_nil] at cut
      have others := ih named
      rw [respell] at others ⊢
      rw [Line.chars, List.append_assoc, cut, s.respellSegment_chars own, List.flatMap_cons,
        List.append_assoc, others, Line.chars, List.append_assoc]

section

variable {registry : Registry} {signals : String → Signal}

/-- Where every name has a signal, a text becomes itself with the signals for its names. -/
theorem expandText_of_known {cs : List Char}
    (known : ∀ name ∈ namesOf cs, signalOf registry name = .ok (signals name)) :
    expandText registry cs = .ok (respell (spellSignal signals) cs) := by
  obtain ⟨own, known⟩ := List.forall_mem_cons.mp known
  have others (rest : List (Connective × List Char))
      (known : ∀ other ∈ rest,
        signalOf registry (nameIn other.2) = .ok (signals (nameIn other.2))) :
      expandOthers registry rest = .ok (rest.flatMap fun other =>
        other.1.chars ++ respellSegment (spellSignal signals) other.2) := by
    induction rest with
    | nil => rfl
    | cons other rest ih =>
        obtain ⟨own, known⟩ := List.forall_mem_cons.mp known
        rw [expandOthers, expandSegment_of_known own, ok_bind, ih known]
        rfl
  have behind := others (split cs).2 fun other member =>
    known _ (List.mem_map_of_mem (List.mem_map_of_mem member))
  simp only [expandText, expandSegment_of_known own, behind, ok_bind]
  rfl

/-- In a line the name in each slot is replaced. -/
theorem expandText_chars {l : Line} (named : ∀ name ∈ l.names, Configuration.isName name = true)
    (known : ∀ name ∈ l.names, signalOf registry name = .ok (signals name)) :
    expandText registry (l.chars String.toList) = .ok (l.chars (spellSignal signals)) := by
  rw [← namesOf_chars named] at known
  rw [expandText_of_known known, respell_chars named]

/-- What a text stands for is read as the text is, written over signals. -/
theorem Reading.expand_of_written {f : Reading} {text : String}
    (written : Written String.toList .disjunction f text.toList)
    (known : ∀ name ∈ f.names, signalOf registry name = .ok (signals name)) :
    ∃ expression, expand registry text = .ok expression ∧
      Written (spellSignal signals) .disjunction f expression.toList := by
  have named := named_of_written written
  obtain ⟨l, names, chars, written⟩ := Line.exists_of_written written
  refine ⟨String.ofList (l.chars (spellSignal signals)), ?_, ?_⟩
  · rw [expand_eq, ← chars, expandText_chars (names ▸ named) (names ▸ known)]
    rfl
  · rw [String.toList_ofList]
    exact written _

/-- What a text that a formula is written as stands for is read as the same formula, written over
signals. -/
theorem expand_of_written {f : Formula} {text : String}
    (written : Formula.Written String.toList .disjunction f text.toList)
    (named : ∀ name ∈ f.names, Configuration.isName name = true)
    (known : ∀ name ∈ f.names, signalOf registry name = .ok (signals name)) :
    ∃ expression, expand registry text = .ok expression ∧
      Written (spellSignal signals) .disjunction f.reading expression.toList := by
  refine Reading.expand_of_written (written.reading named) ?_
  rw [Formula.names_reading]
  exact known

end

end QualityGate.Concatenation
