import Mathlib.Data.List.DropRight
import QualityGate.Proofs.Concatenation.Expansion

/-!
# Texts as lines

Every text is a line of the names in it, whatever they are: between two signs there is a name with
pads around it, and another spelling of the names changes nothing else (`exists_line_respell`). Of
pads alone the name is empty, and it comes to stand before them.
-/

namespace QualityGate.Concatenation

/-! ## Replacing a name by itself -/

theorem replaceFirst_nil (label cs : List Char) : Text.replaceFirst [] label cs = label ++ cs := by
  cases cs <;> simp [Text.replaceFirst]

theorem replaceFirst_self (part cs : List Char) : Text.replaceFirst part part cs = cs := by
  induction cs with
  | nil => cases part <;> rfl
  | cons c cs ih =>
      rw [Text.replaceFirst]
      split
      case isTrue here =>
          exact List.prefix_iff_eq_append.mp (List.isPrefixOf_iff_prefix.mp here)
      case isFalse => rw [ih]

/-- The segments of a text and the signs between them make up the text. -/
theorem chars_split (cs : List Char) :
    (split cs).1 ++ (split cs).2.flatMap (fun o => o.1.chars ++ o.2) = cs := by
  induction cs using split.induct with
  | case1 => rfl
  | case2 rest segment others _ ih => simpa [split, Connective.chars] using ih
  | case3 rest segment others _ ih => simpa [split, Connective.chars] using ih
  | case4 c rest noAnd noOr segment others _ ih =>
      rw [split]
      · simpa using ih
      · exact noAnd
      · exact noOr

theorem respell_toList (cs : List Char) : respell String.toList cs = cs := by
  have same (segment : List Char) : respellSegment String.toList segment = segment := by
    rw [respellSegment, nameIn, String.toList_ofList, replaceFirst_self]
  simp only [respell, same]
  exact chars_split cs

/-! ## Slots of segments -/

/-- A segment is its name with pads around it. -/
theorem nameOf_append (segment : List Char) :
    segment.takeWhile isPad ++ nameOf segment ++ (segment.dropWhile isPad).rtakeWhile isPad =
      segment := by
  have behind : nameOf segment ++ (segment.dropWhile isPad).rtakeWhile isPad =
      segment.dropWhile isPad := List.rdropWhile_append_rtakeWhile
  rw [List.append_assoc, behind, List.takeWhile_append_dropWhile]

/-- A name does not start with a pad. -/
theorem isPad_head_nameOf {segment : List Char} (nonempty : nameOf segment ≠ []) :
    isPad ((nameOf segment).head nonempty) = false := by
  have front : nameOf segment <+: segment.dropWhile isPad := List.rdropWhile_prefix isPad _
  rw [front.head]
  exact List.head_dropWhile_not isPad _

/-- Where the name in a segment is empty there are pads alone. -/
theorem isPad_of_nameOf_eq_nil {segment : List Char} (empty : nameOf segment = []) :
    ∀ c ∈ segment, isPad c = true := by
  have behind : ∀ c ∈ segment.dropWhile isPad, isPad c = true := List.rdropWhile_eq_nil_iff.mp empty
  rw [← List.takeWhile_append_dropWhile (p := isPad) (l := segment), List.forall_mem_append]
  exact ⟨fun c => List.mem_takeWhile_imp, behind⟩

theorem exists_slot (segment : List Char) :
    ∃ s : Slot, s.name = nameIn segment ∧
      ∀ spell, s.chars spell = respellSegment spell segment := by
  by_cases empty : nameOf segment = []
  · refine ⟨⟨[], nameIn segment, segment, by simp, isPad_of_nameOf_eq_nil empty⟩, rfl,
      fun spell => ?_⟩
    rw [respellSegment, empty, replaceFirst_nil]
    rfl
  · have before : ∀ c ∈ segment.takeWhile isPad, isPad c = true := fun c => List.mem_takeWhile_imp
    have behind : ∀ c ∈ (segment.dropWhile isPad).rtakeWhile isPad, isPad c = true := fun c =>
      List.mem_rtakeWhile_imp
    refine ⟨⟨_, nameIn segment, _, before, behind⟩, rfl, fun spell => ?_⟩
    have replaced : Text.replaceFirst (nameOf segment) (spell (nameIn segment))
        (segment.takeWhile isPad ++ nameOf segment ++
          (segment.dropWhile isPad).rtakeWhile isPad) = _ :=
      replaceFirst_pads before empty (isPad_head_nameOf empty)
    rw [nameOf_append] at replaced
    exact replaced.symm

/-! ## Lines of texts -/

/-- Every text is a line of its names, and is so in every spelling. -/
theorem exists_line_respell (cs : List Char) :
    ∃ l : Line, l.names = namesOf cs ∧ ∀ spell, l.chars spell = respell spell cs := by
  have lines (first : List Char) (others : List (Connective × List Char)) :
      ∃ l : Line, l.names = (first :: others.map (·.2)).map nameIn ∧
        ∀ spell, l.chars spell = respellSegment spell first ++
          others.flatMap fun other => other.1.chars ++ respellSegment spell other.2 := by
    induction others generalizing first with
    | nil =>
        obtain ⟨s, name, chars⟩ := exists_slot first
        exact ⟨.last s, by simp [Line.names, name], fun spell => by simp [Line.chars, chars]⟩
    | cons other others ih =>
        obtain ⟨s, name, chars⟩ := exists_slot first
        obtain ⟨l, names, rest⟩ := ih other.2
        exact ⟨.more s other.1 l, by simp [Line.names, name, names],
          fun spell => by simp [Line.chars, chars, rest]⟩
  exact lines (split cs).1 (split cs).2

/-- Every text is a line of its names. -/
theorem exists_line (cs : List Char) :
    ∃ l : Line, l.chars String.toList = cs ∧ l.names = namesOf cs := by
  obtain ⟨l, names, chars⟩ := exists_line_respell cs
  exact ⟨l, (chars _).trans (respell_toList cs), names⟩

end QualityGate.Concatenation
