import QualityGate.Proofs.Concatenation.Inversion
import QualityGate.Proofs.Concatenation.Line

/-!
# Names that stand in for others

A registry may hold results under any texts, and a concatenation may name them. What it is read as
does not depend on these texts: names of checks can stand in for them, as long as different ones do
for different names. `ReadAs` says what a text is read as with such names. Whichever stand in, the
expression over signals comes to the status of the reading (`fold_of_readAs`), and where it comes to
a status there is a reading (`exists_readAs`).
-/

namespace QualityGate

namespace Concatenation

open Reading (Written)

/-! ## Renaming -/

section Renaming

variable {spell spell' : String → List Char} {standIn : String → String}

/-- A line with other names. -/
def Line.rename (standIn : String → String) : Line → Line
  | last s => last { s with name := standIn s.name }
  | more s sign rest => more { s with name := standIn s.name } sign (rest.rename standIn)

@[simp] theorem Line.chars_rename (l : Line) :
    (l.rename standIn).chars spell = l.chars fun name => spell (standIn name) := by
  induction l with
  | last s => rfl
  | more s sign rest ih => simp [rename, chars, Slot.chars, ih]

@[simp] theorem Line.names_rename (l : Line) : (l.rename standIn).names = l.names.map standIn := by
  induction l with
  | last s => rfl
  | more s sign rest ih => simp [rename, names, ih]

theorem Line.chars_congr {l : Line} (same : ∀ name ∈ l.names, spell name = spell' name) :
    l.chars spell = l.chars spell' := by
  induction l with
  | last s => simp [chars, Slot.chars, same s.name List.mem_cons_self]
  | more s sign rest ih =>
      obtain ⟨own, same⟩ := List.forall_mem_cons.mp same
      simp [chars, Slot.chars, own, ih same]

namespace Reading

/-- A reading with other names. -/
def rename (standIn : String → String) : Reading → Reading
  | check name => .check (standIn name)
  | call name => .call (standIn name)
  | and left right => .and (left.rename standIn) (right.rename standIn)
  | or left right => .or (left.rename standIn) (right.rename standIn)

@[simp] theorem names_rename (f : Reading) : (f.rename standIn).names = f.names.map standIn := by
  induction f with
  | check name | call name => rfl
  | and left right ih ih' | or left right ih ih' => simp [rename, names, ih, ih']

theorem rename_rename (standIn back : String → String) (f : Reading) :
    (f.rename standIn).rename back = f.rename fun name => back (standIn name) := by
  induction f with
  | check name | call name => rfl
  | and left right ih ih' | or left right ih ih' => simp [rename, ih, ih']

/-- A reading keeps its names where each is its own stand-in. -/
theorem rename_eq_self {f : Reading} (same : ∀ name ∈ f.names, standIn name = name) :
    f.rename standIn = f := by
  induction f with
  | check name | call name => simpa [rename, names] using same
  | and left right ih ih' | or left right ih ih' =>
      obtain ⟨left, right⟩ := List.forall_mem_append.mp same
      rw [rename, ih left, ih' right]

/-- The truth of a reading is that of the reading with other names of the same truth. -/
theorem truth?_rename {f : Reading} {accepts accepts' : String → Bool}
    (same : ∀ name ∈ f.names, accepts' (standIn name) = accepts name) :
    (f.rename standIn).truth? accepts' = f.truth? accepts := by
  induction f with
  | check name => simpa [rename, truth?, names] using same
  | call name => rfl
  | and left right ih ih' | or left right ih ih' =>
      obtain ⟨left, right⟩ := List.forall_mem_append.mp same
      simp only [rename, truth?, ih left, ih' right]

/-- The status of a reading is that of the reading with other names of the same signals. -/
theorem status?_rename {f : Reading} {signals signals' : String → Signal}
    (same : ∀ name ∈ f.names, signals' (standIn name) = signals name) :
    (f.rename standIn).status? signals' = f.status? signals := by
  have truth (accepts : Signal → Bool) :
      ((f.rename standIn).truth? fun name => accepts (signals' name)) =
        f.truth? fun name => accepts (signals name) :=
    truth?_rename fun name member => congrArg accepts (same name member)
  simp only [status?, truth (· != .red), truth (· == .green)]

end Reading

end Renaming

/-! ## Stand-ins -/

/-- Whether names of checks stand in for names, different ones for different names. -/
structure StandsIn (names : List String) (standIn : String → String) : Prop where
  named : ∀ name ∈ names, Configuration.isName (standIn name) = true
  distinct : ∀ name ∈ names, ∀ other ∈ names, standIn name = standIn other → name = other

/-- There are names of checks for any names: as many letters as there are names before one. -/
theorem exists_standsIn (names : List String) : ∃ standIn, StandsIn names standIn := by
  refine ⟨fun name => String.ofList (List.replicate (names.idxOf name + 1) 'a'), ?_, ?_⟩
  · intro name _
    simp [Configuration.isName, List.replicate_succ, Text.isNameRest, Text.isNameStart,
      Text.isLetter]
  · intro name member other _ same
    have long := congrArg (fun s => s.toList.length) same
    simp only [String.toList_ofList, List.length_replicate, Nat.add_right_cancel_iff] at long
    exact (List.idxOf_inj member).mp long

namespace StandsIn

variable {names : List String} {standIn : String → String}

/-- What is known of names is known of what stands in for them. -/
theorem exists_back {α : Type} [Inhabited α] (stands : StandsIn names standIn) (f : String → α) :
    ∃ g : String → α, ∀ name ∈ names, g (standIn name) = f name := by
  refine ⟨fun own => ((names.find? fun name => standIn name = own).map f).getD default,
    fun name member => ?_⟩
  cases found : names.find? fun other => standIn other = standIn name with
  | none => simpa using List.find?_eq_none.mp found name member
  | some other =>
      have same : standIn other = standIn name := by simpa using List.find?_some found
      have back := stands.distinct other (List.mem_of_find?_eq_some found) name member same
      simp [found, back]

/-- With stand-ins a text is a line of names of checks, and it is spelled as the line is. -/
theorem exists_line {text : String} (stands : StandsIn (Concatenation.names text) standIn) :
    ∃ l : Line, l.names = (Concatenation.names text).map standIn ∧
      (∀ name ∈ l.names, Configuration.isName name = true) ∧
        ∀ spell spell' : String → List Char,
          (∀ name ∈ Concatenation.names text, spell' (standIn name) = spell name) →
            l.chars spell' = respell spell text.toList := by
  obtain ⟨l, inLine, chars⟩ := exists_line_respell text.toList
  have inLine : l.names = Concatenation.names text := inLine
  refine ⟨l.rename standIn, ?_, ?_, fun spell spell' same => ?_⟩
  · rw [Line.names_rename, inLine]
  · rw [Line.names_rename, inLine]
    exact List.forall_mem_map.mpr stands.named
  · rw [Line.chars_rename, ← chars]
    exact Line.chars_congr fun name member => same name (inLine ▸ member)

end StandsIn

/-! ## Readings of texts -/

/-- Whether a text is read in the given way: with names of checks that stand in for its names, it is
written as the reading is. -/
def ReadAs (text : String) (f : Reading) : Prop :=
  f.names = names text ∧ ∃ standIn, StandsIn (names text) standIn ∧
    Written String.toList .disjunction (f.rename standIn)
      (respell (fun name => (standIn name).toList) text.toList)

variable {text : String} {f : Reading}

/-- The names in a text are those of what it is written as. -/
theorem namesOf_of_written {cs : List Char}
    (written : Written String.toList .disjunction f cs) : namesOf cs = f.names := by
  have named := Reading.named_of_written written
  obtain ⟨l, names, rfl, -⟩ := Line.exists_of_written written
  rw [← names] at named ⊢
  exact namesOf_chars named

end Concatenation

namespace Evaluator

open Concatenation Reading

variable {e : Evaluator} {text : String} {signals : String → Signal} {f : Reading}

/-- A text comes to the status of what it is read as. -/
theorem fold_of_readAs (time : e.budget ≠ 0) (read : ReadAs text f) :
    (e.fold (String.ofList (respell (spellSignal signals) text.toList))).toOption =
      f.status? signals := by
  obtain ⟨inText, standIn, stands, written⟩ := read
  obtain ⟨signals', back⟩ := stands.exists_back signals
  have spelled : ∀ name ∈ names text,
      spellSignal signals' (standIn name) = spellSignal signals name := by
    intro name member
    rw [spellSignal, back name member, spellSignal]
  -- The lines of the text and of the reading have one text, so they have one in every spelling.
  obtain ⟨l, -, named, chars⟩ := stands.exists_line
  have ownNamed := named_of_written written
  obtain ⟨own, ownNames, ownChars, written⟩ := Line.exists_of_written written
  rw [← ownNames] at ownNamed
  have same : own.chars (spellSignal signals') = respell (spellSignal signals) text.toList :=
    calc own.chars (spellSignal signals')
        = respell (spellSignal signals') (own.chars String.toList) :=
        (respell_chars ownNamed _).symm
      _ = respell (spellSignal signals') (l.chars String.toList) := by
        rw [ownChars, chars _ String.toList fun _ _ => rfl]
      _ = l.chars (spellSignal signals') := respell_chars named _
      _ = respell (spellSignal signals) text.toList := chars _ _ spelled
  rw [← same, fold_of_reading time (g := f.rename standIn), status?_rename]
  · exact fun name member => back name (inText ▸ member)
  · rw [String.toList_ofList]
    exact written _

/-- A text that comes to a status is read in some way. -/
theorem exists_readAs {s : Status} (time : e.budget ≠ 0)
    (comes : e.fold (String.ofList (respell (spellSignal signals) text.toList)) = .ok s) :
    ∃ f, ReadAs text f := by
  obtain ⟨t, parsed⟩ := exists_term_of_fold time comes
  obtain ⟨standIn, stands⟩ := exists_standsIn (names text)
  obtain ⟨signals', back⟩ := stands.exists_back signals
  obtain ⟨unname, own⟩ := stands.exists_back id
  obtain ⟨l, names, named, chars⟩ := stands.exists_line
  rw [← chars (spellSignal signals) (spellSignal signals') fun name member => by
    rw [spellSignal, back name member, spellSignal]] at parsed
  obtain ⟨f, written, -⟩ := Line.exists_reading named parsed
  have inLine : f.names = l.names := by rw [← namesOf_of_written written, namesOf_chars named]
  rw [chars _ String.toList fun _ _ => rfl] at written
  refine ⟨f.rename unname, ?_, standIn, stands, ?_⟩
  · rw [names_rename, inLine, names, List.map_map]
    exact (List.map_congr_left own).trans (List.map_id _)
  · have renamed : (f.rename unname).rename standIn = f := by
      rw [rename_rename]
      refine rename_eq_self ?_
      rw [inLine, names]
      exact List.forall_mem_map.mpr fun name member => congrArg standIn (own name member)
    rw [renamed]
    exact written

end Evaluator

end QualityGate
