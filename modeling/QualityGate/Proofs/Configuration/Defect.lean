import QualityGate.Proofs.Concatenation.Segment
import QualityGate.Proofs.Configuration.Validation

/-!
# Defects of configurations

What makes a configuration well-formed does not depend on the order of its checks (`WellFormed`).
What is reported of one that is not does: of all its defects, listed in the order in which they are
looked for (`defects`), it is the first. A configuration without defects is well-formed, so
validation accepts exactly the well-formed ones (`validate_iff_wellFormed`).
-/

namespace QualityGate.Configuration

/-! ## Names -/

/-- Whether a character is an ASCII letter or an underscore. -/
def StartsName (c : Char) : Prop := ('A' ≤ c ∧ c ≤ 'Z') ∨ ('a' ≤ c ∧ c ≤ 'z') ∨ c = '_'

/-- Whether a character is an ASCII letter, a digit, an underscore or a dash. -/
def ContinuesName (c : Char) : Prop := StartsName c ∨ ('0' ≤ c ∧ c ≤ '9') ∨ c = '-'

/-- Whether a text as a whole has the form of a name. -/
def HasNameForm (name : String) : Prop :=
  ∃ c cs, name.toList = c :: cs ∧ StartsName c ∧ ∀ d ∈ cs, ContinuesName d

theorem isName_iff {name : String} : isName name = true ↔ HasNameForm name := by
  have start (c : Char) : Text.isNameStart c = true ↔ StartsName c := by
    simp only [Text.isNameStart, Text.isLetter, Bool.or_eq_true, Bool.and_eq_true,
      decide_eq_true_eq, beq_iff_eq, StartsName]
    tauto
  have next (c : Char) : (Text.isNameRest c || c == '-') = true ↔ ContinuesName c := by
    simp only [Text.isNameRest, Text.isDigit, Bool.or_eq_true, Bool.and_eq_true,
      decide_eq_true_eq, beq_iff_eq, ContinuesName, start, or_assoc]
  rw [isName]
  cases chars : name.toList with
  | nil => simp [HasNameForm, chars]
  | cons c cs => simp [HasNameForm, chars, start, ← next]

/-! ## Defects -/

/-- What can be wrong with a configuration. -/
inductive Defect where
  /-- There is no time for expressions. -/
  | noTime
  | malformedName (name : String)
  | repeatedName (name : String)
  | badDefinition (name : String) (failure : Failure)
  /-- The concatenation names no check. -/
  | unknownName (concatenation name : String)

/-- The report of a defect. -/
def Defect.problem [Readers] : Defect → Problem
  | noTime => ⟨"timeout must be greater than zero", []⟩
  | malformedName name =>
    ⟨"check name '" ++ name ++ "' must start with a letter or underscore and contain only "
      ++ "letters, digits, '_' or '-'", []⟩
  | repeatedName name => ⟨"check name '" ++ name ++ "' is used more than once", []⟩
  | badDefinition name failure => ⟨failure.message, ["check '" ++ name ++ "' is invalid"]⟩
  | unknownName concatenation name =>
    ⟨"concatenation '" ++ concatenation ++ "' references unknown check '" ++ name ++ "'", []⟩

/-- The defects of a check behind those with the given names. -/
def defectsOf (earlier : List String) (check : NamedCheck) : List Defect :=
  (if isName check.name then [] else [.malformedName check.name])
    ++ (if check.name ∈ earlier then [.repeatedName check.name] else [])
    ++ match check.definition.validate with
      | .ok _ => []
      | .error failure => [.badDefinition check.name failure]

/-- The defects of checks behind those with the given names, check by check. -/
def checkDefects (earlier : List String) : List NamedCheck → List Defect
  | [] => []
  | check :: rest => defectsOf earlier check ++ checkDefects (check.name :: earlier) rest

/-- The defects of a concatenation of checks with the given names, from left to right. -/
def concatenationDefects (names : List String) (concatenation : String) : List Defect :=
  ((Concatenation.names concatenation).filter (· ∉ names)).map (.unknownName concatenation)

/-- All defects of a configuration: that of its time, those of its checks, and those of its
concatenation. -/
def defects (c : Configuration) : List Defect :=
  (if c.timeout = 0 then [.noTime] else []) ++ checkDefects [] c.checks
    ++ c.concatenation.toList.flatMap (concatenationDefects (c.checks.map (·.name)))

section First

variable [Readers] {c : Configuration} {earlier : List String} {check : NamedCheck}
  {checks : List NamedCheck}

theorem checkProblem?_eq :
    checkProblem? earlier check = (defectsOf earlier check).head?.map Defect.problem := by
  unfold checkProblem? defectsOf
  generalize check.definition.validate = valid
  cases isName check.name with
  | false => rfl
  | true =>
      by_cases used : check.name ∈ earlier
      · rw [if_neg (by decide), if_pos (List.contains_iff_mem.mpr used), if_pos rfl, if_pos used]
        rfl
      · rw [if_neg (by decide), if_neg (used ∘ List.contains_iff_mem.mp), if_pos rfl, if_neg used]
        cases valid <;> rfl

theorem checksProblem?_eq :
    checksProblem? earlier checks = (checkDefects earlier checks).head?.map Defect.problem := by
  induction checks generalizing earlier with
  | nil => rfl
  | cons check rest ih =>
      rw [checksProblem?, checkProblem?_eq, ih, checkDefects, List.head?_append]
      cases (defectsOf earlier check).head? <;> rfl

theorem concatenationProblem?_eq (names : List String) (text : String) :
    concatenationProblem? names text =
      (concatenationDefects names text).head?.map Defect.problem := by
  have unknown : (fun name => !names.contains name) = fun name => decide (name ∉ names) := by
    funext name
    rw [List.contains_eq_mem, decide_not]
  unfold concatenationProblem? concatenationDefects
  generalize Concatenation.names text = found
  rw [List.head?_map, List.head?_filter, unknown]
  generalize found.find? _ = first
  cases first <;> rfl

/-- The problem of a configuration is its first defect. -/
theorem problem?_eq : c.problem? = c.defects.head?.map Defect.problem := by
  rw [problem?, defects, checksProblem?_eq]
  by_cases time : c.timeout = 0
  · rw [if_pos time, if_pos time]
    rfl
  · have concatenation : c.concatenation.bind (concatenationProblem? (c.checks.map (·.name))) =
        (c.concatenation.toList.flatMap
          (concatenationDefects (c.checks.map (·.name)))).head?.map Defect.problem := by
      cases c.concatenation with
      | none => rfl
      | some text => simp [concatenationProblem?_eq]
    rw [if_neg time, if_neg time, List.nil_append, List.head?_append, concatenation]
    cases (checkDefects [] c.checks).head? <;> rfl

theorem validate_eq_error_iff {problem : Problem} :
    c.validate = .error problem ↔ ∃ d, c.defects.head? = some d ∧ problem = d.problem := by
  rw [validate, problem?_eq]
  cases c.defects.head? <;> simp [eq_comm]

/-- A configuration is valid if it has no defect. -/
theorem validate_eq_ok_iff_defects : c.validate = .ok () ↔ c.defects = [] := by
  rw [validate_eq_ok_iff_problem?, problem?_eq, Option.map_eq_none_iff, List.head?_eq_none_iff]

end First

/-! ## Well-formed configurations -/

/-- Whether there is time for expressions, the checks have names, no two of them the same one, and
sound definitions, and the concatenation has no other names. -/
structure WellFormed (c : Configuration) : Prop where
  time : c.timeout ≠ 0
  named : ∀ check ∈ c.checks, HasNameForm check.name
  distinct : (c.checks.map (·.name)).Nodup
  defined : ∀ check ∈ c.checks, check.definition.validate = .ok ()
  known : ∀ text ∈ c.concatenation, ∀ parts, Concatenation.Segments text.toList parts →
    ∀ segment ∈ parts, ∀ name : String, Concatenation.Strips segment name.toList →
      ∃ check ∈ c.checks, check.name = name

section WellFormed

variable {c : Configuration} {earlier : List String} {check : NamedCheck} {checks : List NamedCheck}

/-- The order of the checks does not matter to whether a configuration is well-formed. -/
theorem WellFormed.perm (sound : c.WellFormed) (perm : checks.Perm c.checks) :
    WellFormed { c with checks } where
  time := sound.time
  named check member := sound.named check (perm.mem_iff.mp member)
  distinct := (perm.map _).nodup_iff.mpr sound.distinct
  defined check member := sound.defined check (perm.mem_iff.mp member)
  known text has parts cuts segment member name strips := by
    obtain ⟨check, among, own⟩ := sound.known text has parts cuts segment member name strips
    exact ⟨check, perm.mem_iff.mpr among, own⟩

theorem defectsOf_eq_nil_iff :
    defectsOf earlier check = [] ↔ HasNameForm check.name ∧ check.name ∉ earlier ∧
      check.definition.validate = .ok () := by
  have definition : (match check.definition.validate with
      | .ok _ => []
      | .error failure => [Defect.badDefinition check.name failure]) = [] ↔
        check.definition.validate = .ok () := by
    cases check.definition.validate <;> simp
  rw [defectsOf, List.append_eq_nil_iff, List.append_eq_nil_iff, definition, ite_eq_left_iff,
    ite_eq_right_iff, ← isName_iff, and_assoc]
  simp only [List.cons_ne_self, imp_false, not_not]

/-- Checks are without defects behind given names if each by itself is, and no two of them have the
same name. -/
theorem checkDefects_eq_nil_iff :
    checkDefects earlier checks = [] ↔
      (∀ check ∈ checks, defectsOf earlier check = []) ∧ (checks.map (·.name)).Nodup := by
  induction checks generalizing earlier with
  | nil => simp [checkDefects]
  | cons check rest ih =>
      have later : (∀ other ∈ rest, defectsOf (check.name :: earlier) other = []) ↔
          (∀ other ∈ rest, defectsOf earlier other = []) ∧ check.name ∉ rest.map (·.name) := by
        simp only [defectsOf_eq_nil_iff, List.mem_cons, List.mem_map, not_exists, not_and, not_or]
        constructor
        · intro sound
          exact ⟨fun other among => ⟨(sound other among).1, (sound other among).2.1.2,
            (sound other among).2.2⟩, fun other among => (sound other among).2.1.1⟩
        · rintro ⟨sound, new⟩ other among
          obtain ⟨named, unused, defined⟩ := sound other among
          exact ⟨named, ⟨new other among, unused⟩, defined⟩
      rw [checkDefects, List.append_eq_nil_iff, ih, later, List.forall_mem_cons, List.map_cons,
        List.nodup_cons, and_assoc, and_assoc]

theorem concatenationDefects_eq_nil_iff (names : List String) (text : String) :
    concatenationDefects names text = [] ↔ ∀ name ∈ Concatenation.names text, name ∈ names := by
  simp [concatenationDefects]

/-- A configuration is without defects if it is well-formed. -/
theorem defects_eq_nil_iff : c.defects = [] ↔ c.WellFormed := by
  have known : c.concatenation.toList.flatMap (concatenationDefects (c.checks.map (·.name))) = [] ↔
      ∀ text ∈ c.concatenation, ∀ name ∈ Concatenation.names text,
        ∃ check ∈ c.checks, check.name = name := by
    simp only [List.flatMap_eq_nil_iff, Option.mem_toList, Option.mem_def,
      concatenationDefects_eq_nil_iff, List.mem_map]
  rw [defects, List.append_eq_nil_iff, List.append_eq_nil_iff, known, checkDefects_eq_nil_iff,
    ite_eq_right_iff]
  simp only [defectsOf_eq_nil_iff, List.not_mem_nil, not_false_eq_true, true_and]
  constructor
  · rintro ⟨⟨time, sound, distinct⟩, known⟩
    refine ⟨fun zero => ?_, fun check among => (sound check among).1, distinct,
      fun check among => (sound check among).2, fun text has parts cuts segment member name strips =>
        known text has name ((Concatenation.mem_names_iff cuts).mpr ⟨segment, member, strips⟩)⟩
    cases time zero
  · rintro ⟨time, named, distinct, defined, known⟩
    refine ⟨⟨fun zero => absurd zero time,
      fun check among => ⟨named check among, defined check among⟩, distinct⟩,
      fun text has name member => ?_⟩
    have cuts := Concatenation.segments_split text.toList
    obtain ⟨segment, among, strips⟩ := (Concatenation.mem_names_iff cuts).mp member
    exact known text has _ cuts segment among name strips

/-- **Validation accepts exactly the well-formed configurations**, so the order of the checks does
not matter to whether it accepts; and of one that is not well-formed it reports the first defect. -/
theorem validate_iff_wellFormed [Readers] (c : Configuration) :
    (c.validate = .ok () ↔ c.WellFormed) ∧
    (∀ checks : List NamedCheck, checks.Perm c.checks →
      ({ c with checks }.validate = .ok () ↔ c.validate = .ok ())) ∧
    ∀ problem, c.validate = .error problem ↔
      ∃ defect, c.defects.head? = some defect ∧ problem = defect.problem := by
  have accepts (c : Configuration) : c.validate = .ok () ↔ c.WellFormed :=
    validate_eq_ok_iff_defects.trans defects_eq_nil_iff
  refine ⟨accepts c, fun checks perm => ?_, fun problem => validate_eq_error_iff⟩
  rw [accepts, accepts]
  exact ⟨fun sound => sound.perm perm.symm, fun sound => sound.perm perm⟩

/-- Two checks may change places, and of a name used twice and a name without a check the one that is
used twice is reported. -/
theorem validate_iff_wellFormed_swap :
    let first : NamedCheck := ⟨"a", ⟨"$.x", "$ == 1", .none⟩⟩
    let second : NamedCheck := ⟨"b-2", ⟨"$..y[*]", "any(ref, '$ > 0')", .none⟩⟩
    let valid : Configuration := ⟨false, 1, .abort, some " (b-2\n) || a", [first, second]⟩
    let invalid : Configuration := ⟨false, 1, .abort, some "a && c", [first, second, first]⟩
    valid.WellFormed ∧ { valid with checks := [second, first] }.validate = .ok () ∧
      invalid.validate = .error ⟨"check name 'a' is used more than once", []⟩ := by
  intro first second valid invalid
  have accepted : valid.validate = .ok () := by decide +kernel
  have repeated : invalid.defects.head?.map Defect.problem =
      some ⟨"check name 'a' is used more than once", []⟩ := by decide +kernel
  obtain ⟨defect, head, report⟩ := Option.map_eq_some_iff.mp repeated
  exact ⟨(validate_iff_wellFormed valid).1.mp accepted,
    ((validate_iff_wellFormed valid).2.1 _ (.swap ..)).mpr accepted,
    ((validate_iff_wellFormed invalid).2.2 _).mpr ⟨defect, head, report.symm⟩⟩

end WellFormed

end QualityGate.Configuration
