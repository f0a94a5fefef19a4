import QualityGate.Concatenation
import QualityGate.Proofs.Failure

/-!
# The names in a concatenation

Names are replaced by the signals of their checks from left to right. So the failure of an expansion
is that of the first name without a signal (`expand_eq_error_iff`), and where every name has one
there is an expansion.
-/

namespace QualityGate

/-! ## Registries -/

namespace Registry

/-- An added result hides an earlier one of its name, and no others. -/
theorem find?_insert (registry : Registry) (name other : String) (result : CheckResult) :
    (registry.insert name result).find? other =
      if other = name then some result else registry.find? other := by
  have kept (entries : List (String × CheckResult)) (ne : other ≠ name) :
      (entries.filter fun entry => entry.1 != name).lookup other = entries.lookup other := by
    induction entries with
    | nil => rfl
    | cons entry entries ih =>
        obtain ⟨own, r⟩ := entry
        rw [List.filter_cons]
        split
        case isTrue => rw [List.lookup_cons, List.lookup_cons, ih]
        case isFalse hidden =>
            have same : own = name := by simpa using hidden
            have miss : (other == own) = false := by simpa [same] using ne
            rw [List.lookup_cons, miss, ih]
  by_cases same : other = name
  · subst same
    rw [if_pos rfl, find?, insert, List.lookup_cons_self]
  · have miss : (other == name) = false := by simpa using same
    rw [if_neg same, find?, insert, List.lookup_cons, miss, kept _ same, find?]

end Registry

namespace Concatenation

variable {registry : Registry} {text name : String} {failure : Failure}

/-! ## Signals of names -/

/-- A name has no signal for one of two reasons. -/
theorem signalOf_eq_unknownCheck_iff {other : String} :
    signalOf registry name = .error (.unknownCheck other) ↔
      other = name ∧ registry.find? name = none := by
  unfold signalOf
  cases registry.find? name with
  | none => simp [eq_comm]
  | some result => cases signal : result.status.signal? <;> simp [signal]

theorem signalOf_eq_ok_iff {s : Signal} :
    signalOf registry name = .ok s ↔
      ∃ r, registry.find? name = some r ∧ r.status.signal? = some s := by
  unfold signalOf
  cases registry.find? name with
  | none => simp
  | some result => cases signal : result.status.signal? <;> simp [signal]

/-- Whether the failure is that of the first name in a list, left to right, that has no signal. -/
def FailsFirst (registry : Registry) (names : List String) (failure : Failure) : Prop :=
  ∃ before name after, names = before ++ name :: after ∧
    (∀ earlier ∈ before, ∃ s, signalOf registry earlier = .ok s) ∧
    signalOf registry name = .error failure

theorem not_failsFirst_nil : ¬ FailsFirst registry [] failure := by
  rintro ⟨before, name, after, parts, -⟩
  simp at parts

theorem failsFirst_cons {names : List String} :
    FailsFirst registry (name :: names) failure ↔
      signalOf registry name = .error failure ∨
        (∃ s, signalOf registry name = .ok s) ∧ FailsFirst registry names failure := by
  constructor
  · rintro ⟨before, first, after, parts, earlier, fails⟩
    rcases List.cons_eq_append_iff.mp parts with ⟨rfl, own⟩ | ⟨rest, rfl, rfl⟩
    · cases own
      exact .inl fails
    · obtain ⟨own, earlier⟩ := List.forall_mem_cons.mp earlier
      exact .inr ⟨own, rest, first, after, rfl, earlier, fails⟩
  · rintro (fails | ⟨own, before, first, after, rfl, earlier, fails⟩)
    · exact ⟨[], name, names, rfl, List.forall_mem_nil _, fails⟩
    · exact ⟨name :: before, first, after, rfl, List.forall_mem_cons.mpr ⟨own, earlier⟩, fails⟩

/-- Of names of which one has no signal, one is the first. -/
theorem exists_failsFirst {names : List String} (member : name ∈ names)
    (fails : signalOf registry name = .error failure) :
    ∃ first, FailsFirst registry names first := by
  induction names with
  | nil => cases member
  | cons own names ih =>
      cases result : signalOf registry own with
      | error earlier => exact ⟨earlier, failsFirst_cons.mpr (.inl result)⟩
      | ok s =>
          cases member with
          | head =>
              rw [result] at fails
              cases fails
          | tail _ member =>
              obtain ⟨first, behind⟩ := ih member
              exact ⟨first, failsFirst_cons.mpr (.inr ⟨⟨s, result⟩, behind⟩)⟩

/-! ## Expansions -/

/-- The name in a segment, as in `names`. -/
abbrev nameIn (segment : List Char) : String := String.ofList (nameOf segment)

theorem expandSegment_eq_error_iff {segment : List Char} :
    expandSegment registry segment = .error failure ↔
      signalOf registry (nameIn segment) = .error failure :=
  bind_pure_eq_error_iff

theorem exists_signal_of_expandSegment {segment expanded : List Char}
    (ok : expandSegment registry segment = .ok expanded) :
    ∃ s, signalOf registry (nameIn segment) = .ok s := by
  obtain ⟨s, signal, -⟩ := bind_eq_ok_iff.mp ok
  exact ⟨s, signal⟩

/-- A segment and what follows it fail at the name of the segment, or behind it. -/
theorem bind_expandSegment_eq_error_iff {β : Type} {segment : List Char} {names : List String}
    {next : List Char → Except Failure β}
    (behind : ∀ expanded, next expanded = .error failure ↔ FailsFirst registry names failure) :
    (expandSegment registry segment >>= next) = .error failure ↔
      FailsFirst registry (nameIn segment :: names) failure := by
  rw [bind_eq_error_iff, failsFirst_cons, expandSegment_eq_error_iff]
  refine or_congr_right ⟨?_, ?_⟩
  · rintro ⟨expanded, ok, fails⟩
    exact ⟨exists_signal_of_expandSegment ok, (behind expanded).mp fails⟩
  · rintro ⟨⟨s, signal⟩, fails⟩
    exact ⟨_, bind_eq_ok_iff.mpr ⟨s, signal, rfl⟩, (behind _).mpr fails⟩

theorem expandOthers_eq_error_iff {others : List (Connective × List Char)} :
    expandOthers registry others = .error failure ↔
      FailsFirst registry (others.map fun other => nameIn other.2) failure := by
  induction others with
  | nil => exact iff_of_false nofun not_failsFirst_nil
  | cons other others ih =>
      exact bind_expandSegment_eq_error_iff fun _ => bind_pure_eq_error_iff.trans ih

/-- An expansion fails at the first name, left to right, that has no signal. -/
theorem expand_eq_error_iff :
    expand registry text = .error failure ↔ FailsFirst registry (names text) failure := by
  have parts : names text = nameIn (split text.toList).1 ::
      (split text.toList).2.map fun other => nameIn other.2 := by
    rw [names, segments, List.map_cons, List.map_map]
    rfl
  rw [parts]
  exact bind_expandSegment_eq_error_iff fun _ =>
    bind_pure_eq_error_iff.trans expandOthers_eq_error_iff

/-- Where every name has a signal there is an expansion. -/
theorem exists_expand (known : ∀ name ∈ names text, ∃ s, signalOf registry name = .ok s) :
    ∃ expression, expand registry text = .ok expression := by
  cases expanded : expand registry text with
  | ok expression => exact ⟨expression, rfl⟩
  | error failure =>
      obtain ⟨before, name, after, parts, -, fails⟩ := expand_eq_error_iff.mp expanded
      obtain ⟨s, signal⟩ := known name (by simp [parts])
      rw [signal] at fails
      cases fails

end Concatenation

end QualityGate
