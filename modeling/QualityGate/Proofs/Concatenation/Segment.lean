import QualityGate.Proofs.Concatenation.Line

/-!
# Segments and the names in them

What the segments of a text are can be said without cutting it: each ends where the first sign
behind its start does, and the last one has no sign (`Segments`). What is left of a segment without
the blanks and parentheses at its ends is its name (`Strips`). Every text has exactly one row of
segments, and every segment exactly one name (`segments_iff`, `strips_iff`).
-/

namespace QualityGate.Concatenation

/-! ## Segments -/

/-- Whether there is a sign somewhere in a text. -/
def HasSign (cs : List Char) : Prop := ∃ sign : Connective, sign.chars <:+: cs

/-- Whether a text has the given segments, with signs between them. The sign behind a segment is the
first one: without its last character there is none. -/
inductive Segments : List Char → List (List Char) → Prop
  | last {segment : List Char} : ¬ HasSign segment → Segments segment [segment]
  | more {segment rest : List Char} {others : List (List Char)} (sign : Connective) :
    ¬ HasSign (segment ++ sign.chars.dropLast) → Segments rest others →
    Segments (segment ++ sign.chars ++ rest) (segment :: others)

section Segments

variable {c : Char} {cs segment rest : List Char} {sign : Connective}

/-- A sign in a text stands at its start or behind its first character. -/
theorem hasSign_cons_iff :
    HasSign (c :: cs) ↔ (∃ sign : Connective, sign.chars <+: c :: cs) ∨ HasSign cs := by
  simp only [HasSign, List.infix_cons_iff, exists_or]

theorem not_hasSign_nil : ¬ HasSign [] := by
  rintro ⟨sign, within⟩
  have none := List.infix_nil.mp within
  cases sign <;> cases none

/-- At a character that starts no sign a text is not cut. -/
theorem split_cons (plain : ¬ ∃ sign : Connective, sign.chars <+: c :: cs) :
    split (c :: cs) = (c :: (split cs).1, (split cs).2) := by
  rw [split]
  · rintro rest rfl rfl
    exact plain ⟨.and, List.prefix_append ['&', '&'] rest⟩
  · rintro rest rfl rfl
    exact plain ⟨.or, List.prefix_append ['|', '|'] rest⟩

/-- A text without signs is not cut. -/
theorem split_of_not_hasSign (plain : ¬ HasSign cs) : split cs = (cs, []) := by
  induction cs with
  | nil => rfl
  | cons c cs ih =>
      obtain ⟨here, behind⟩ := not_or.mp (mt hasSign_cons_iff.mpr plain)
      rw [split_cons here, ih behind]

/-- The last character of a sign does not matter to what starts before it. -/
theorem starts_iff (c : Char) (segment : List Char) (sign : Connective) (rest : List Char) :
    (∃ other : Connective, other.chars <+: c :: (segment ++ sign.chars ++ rest)) ↔
      ∃ other : Connective, other.chars <+: c :: (segment ++ sign.chars.dropLast) := by
  have shorter : c :: (segment ++ sign.chars.dropLast) <+: c :: (segment ++ sign.chars ++ rest) := by
    rw [List.append_assoc, List.cons_prefix_cons, List.prefix_append_right_inj]
    exact ⟨rfl, (List.dropLast_prefix _).trans (List.prefix_append _ rest)⟩
  refine exists_congr fun other => ⟨fun starts => ?_, fun starts => starts.trans shorter⟩
  refine List.prefix_of_prefix_length_le starts shorter ?_
  cases sign <;> cases other <;> simp [Connective.chars]

/-- A text is cut at its first sign. -/
theorem split_of_first (first : ¬ HasSign (segment ++ sign.chars.dropLast)) (rest : List Char) :
    split (segment ++ sign.chars ++ rest) =
      (segment, (sign, (split rest).1) :: (split rest).2) := by
  induction segment with
  | nil => exact split_sign sign rest
  | cons c segment ih =>
      obtain ⟨here, behind⟩ := not_or.mp (mt hasSign_cons_iff.mpr first)
      have plain := mt (starts_iff c segment sign rest).mp here
      rw [List.cons_append, List.cons_append, split_cons plain, ih behind]

/-- One more character before a text goes to its first segment, unless a sign starts there. -/
theorem Segments.cons {others : List (List Char)}
    (plain : ¬ ∃ sign : Connective, sign.chars <+: c :: cs)
    (parts : Segments cs (segment :: others)) : Segments (c :: cs) ((c :: segment) :: others) := by
  cases parts with
  | last none => exact .last (mt hasSign_cons_iff.mp (not_or.mpr ⟨plain, none⟩))
  | @more _ rest _ sign first behind =>
      have plain := mt (starts_iff c segment sign rest).mpr plain
      exact @Segments.more (c :: segment) rest _ sign
        (mt hasSign_cons_iff.mp (not_or.mpr ⟨plain, first⟩)) behind

/-- A text has the segments that it is cut into. -/
theorem segments_split (cs : List Char) :
    Segments cs ((split cs).1 :: (split cs).2.map (·.2)) := by
  have alone (d : Char) : ¬ HasSign [d] := by
    rintro ⟨sign, within⟩
    have short := within.length_le
    cases sign <;> simp [Connective.chars] at short
  induction cs using split.induct with
  | case1 => exact .last not_hasSign_nil
  | case2 rest segment others _ ih => exact @Segments.more [] rest _ .and (alone '&') ih
  | case3 rest segment others _ ih => exact @Segments.more [] rest _ .or (alone '|') ih
  | case4 c rest noAnd noOr segment others _ ih =>
      have plain : ¬ ∃ sign : Connective, sign.chars <+: c :: rest := by
        rintro ⟨sign, more, starts⟩
        cases sign with
        | and => exact noAnd more (List.cons.inj starts).1.symm (List.cons.inj starts).2.symm
        | or => exact noOr more (List.cons.inj starts).1.symm (List.cons.inj starts).2.symm
      rw [split_cons plain]
      exact ih.cons plain

/-- The segments of a text are those that it is cut into. -/
theorem segments_iff {parts : List (List Char)} :
    Segments cs parts ↔ parts = (split cs).1 :: (split cs).2.map (·.2) := by
  constructor
  · intro cuts
    induction cuts with
    | last none => rw [split_of_not_hasSign none, List.map_nil]
    | more sign first _ ih => rw [split_of_first first, ih, List.map_cons]
  · rintro rfl
    exact segments_split cs

end Segments

/-! ## Names -/

/-- Whether a name is what is left of a segment without the pads at its ends. -/
structure Strips (segment name : List Char) : Prop where
  parts : ∃ before behind, segment = before ++ name ++ behind ∧
    (∀ c ∈ before, isPad c = true) ∧ ∀ c ∈ behind, isPad c = true
  head : ∀ c ∈ name.head?, isPad c = false
  last : ∀ c ∈ name.getLast?, isPad c = false

/-- What is left of a segment is its name. -/
theorem strips_nameOf (segment : List Char) : Strips segment (nameOf segment) where
  parts := ⟨_, _, (nameOf_append segment).symm, fun _ => List.mem_takeWhile_imp,
    fun _ => List.mem_rtakeWhile_imp⟩
  head := by
    intro c head
    obtain ⟨cs, name⟩ := List.head?_eq_some_iff.mp head
    have nonempty : nameOf segment ≠ [] := by simp [name]
    have own := isPad_head_nameOf nonempty
    rwa [(List.head_eq_iff_head?_eq_some nonempty).mpr head] at own
  last := by
    intro c last
    obtain ⟨cs, name⟩ := List.getLast?_eq_some_iff.mp last
    have nonempty : nameOf segment ≠ [] := by simp [name]
    have own : ¬ isPad ((nameOf segment).getLast nonempty) = true :=
      List.rdropWhile_last_not isPad (segment.dropWhile isPad) nonempty
    rw [(List.getLast_eq_iff_getLast?_eq_some nonempty).mpr last] at own
    exact Bool.eq_false_iff.mpr own

theorem strips_iff {segment name : List Char} : Strips segment name ↔ name = nameOf segment := by
  constructor
  · rintro ⟨⟨before, behind, rfl, padsBefore, padsBehind⟩, head, last⟩
    exact (nameOf_pads padsBefore padsBehind head last).symm
  · rintro rfl
    exact strips_nameOf segment

/-- The names in a text are what is left of its segments. -/
theorem mem_names_iff {text name : String} {parts : List (List Char)}
    (cuts : Segments text.toList parts) :
    name ∈ names text ↔ ∃ segment ∈ parts, Strips segment name.toList := by
  rw [segments_iff.mp cuts, names, List.mem_map]
  refine exists_congr fun segment => and_congr_right fun _ => ?_
  rw [strips_iff, ← String.ofList_inj, String.ofList_toList, eq_comm]

end QualityGate.Concatenation
