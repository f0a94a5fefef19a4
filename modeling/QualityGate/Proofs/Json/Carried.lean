import Mathlib.Data.List.Forall2
import QualityGate.Json.Record

/-!
# Values carried by a format

A format for texts carries a value if what is read from a text is what was written: the same strings
and truth values, lists with the same items, and tables with the same entries, in any order
(`Json.Carries`). The fields of a record are read from what a format makes of it as they were
written (`field?_of_carries` and the lemmas beside it).
-/

namespace QualityGate.Json

/-- Whether the second value is what a format makes of the first one, if it keeps strings, truth
values, lists and tables. -/
inductive Carries : Json → Json → Prop
  | string (s : String) : Carries (.string s) (.string s)
  | bool (b : Bool) : Carries (.bool b) (.bool b)
  | array {items others : List Json} :
    List.Forall₂ Carries items others → Carries (.array items) (.array others)
  | object {members others : List (String × Json)} :
    (∀ key, (members.lookup key).isSome = (others.lookup key).isSome) →
    (∀ key v w, members.lookup key = some v → others.lookup key = some w → Carries v w) →
    Carries (.object members) (.object others)

section Carries

variable {α : Type} {members others : List (String × Json)} {v w : Json} {name : String}
  {names : List String} {read : Json → Option α} {a : α}

theorem mem_of_lookup {ms : List (String × Json)} (has : ms.lookup name = some v) :
    (name, v) ∈ ms := by
  obtain ⟨front, back, rfl, -⟩ := List.lookup_eq_some_iff.mp has
  exact List.mem_append_right front List.mem_cons_self

theorem lookup_isSome_of_mem {m : String × Json} (member : m ∈ members) :
    (members.lookup m.1).isSome = true :=
  List.lookup_isSome_iff.mpr ⟨m, member, beq_self_eq_true m.1⟩

/-! ### What is carried -/

/-- A table carries another one if it has all its entries, and no others. -/
theorem Carries.object_of_members
    (there : ∀ m ∈ members, ∃ w, others.lookup m.1 = some w ∧ Carries m.2 w)
    (nothingElse : ∀ m ∈ others, (members.lookup m.1).isSome = true) :
    Carries (.object members) (.object others) := by
  refine .object (fun key => ?_) fun key v w has other => ?_
  · rw [Bool.eq_iff_iff]
    constructor
    · intro has
      obtain ⟨v, has⟩ := Option.isSome_iff_exists.mp has
      obtain ⟨w, other, -⟩ := there (key, v) (mem_of_lookup has)
      rw [other]
      rfl
    · intro has
      obtain ⟨w, has⟩ := Option.isSome_iff_exists.mp has
      exact nothingElse (key, w) (mem_of_lookup has)
  · obtain ⟨w', same, carried⟩ := there (key, v) (mem_of_lookup has)
    rw [other] at same
    cases same
    exact carried

/-- A table carries itself if its values do. -/
theorem Carries.object_self (values : ∀ m ∈ members, Carries m.2 m.2) :
    Carries (.object members) (.object members) := by
  refine .object (fun _ => rfl) fun key v w has other => ?_
  rw [has] at other
  cases other
  exact values _ (mem_of_lookup has)

/-- No value is carried by `null`. -/
theorem Carries.ne_null (carried : Carries v w) : w ≠ .null := by
  cases carried <;> exact nofun

/-! ### Reading -/

theorem text?_of_carries {s : String} (carried : Carries (.string s) w) : w.text? = some s := by
  cases carried
  rfl

theorem bool?_of_carries {b : Bool} (carried : Carries (.bool b) w) : w.bool? = some b := by
  cases carried
  rfl

/-- The entries of a carried table, one or none for each key, if it has no other names than those
given. -/
theorem exists_membersAmong?_of_carries (names : List String)
    (carried : Carries (.object members) v) (known : ∀ m ∈ members, m.1 ∈ names) :
    ∃ others, v.membersAmong? names = some others ∧
      ∀ key, Option.Rel Carries (members.lookup key) (others.lookup key) := by
  cases carried with
  | @object _ others keys values =>
      refine ⟨others, ?_, fun key => ?_⟩
      · rw [membersAmong?, if_pos]
        refine List.all_eq_true.mpr fun m member => List.contains_iff_mem.mpr ?_
        obtain ⟨v, has⟩ :=
          Option.isSome_iff_exists.mp ((keys m.1).trans (lookup_isSome_of_mem member))
        exact known (m.1, v) (mem_of_lookup has)
      · have same := keys key
        cases own : members.lookup key with
        | none =>
            rw [own, Option.isSome_none] at same
            rw [Option.not_isSome_iff_eq_none.mp (Bool.eq_false_iff.mp same.symm)]
            exact .none
        | some v =>
            rw [own, Option.isSome_some] at same
            obtain ⟨w, has⟩ := Option.isSome_iff_exists.mp same.symm
            rw [has]
            exact .some (values key v w own has)

/-- The field of a carried table. -/
theorem exists_lookup_of_rel (field : Option.Rel Carries (members.lookup name) (others.lookup name))
    (has : members.lookup name = some v) : ∃ w, others.lookup name = some w ∧ Carries v w := by
  rw [has] at field
  generalize others.lookup name = o at field ⊢
  cases field with
  | some carried => exact ⟨_, rfl, carried⟩

theorem field?_of_carries (field : Option.Rel Carries (members.lookup name) (others.lookup name))
    (has : members.lookup name = some v) (reads : ∀ w, Carries v w → read w = some a) :
    field? name read others = some a := by
  obtain ⟨w, other, carried⟩ := exists_lookup_of_rel field has
  rw [field?, other, Option.bind_some, reads w carried]

theorem fieldOr?_of_carries {default : α}
    (field : Option.Rel Carries (members.lookup name) (others.lookup name))
    (has : members.lookup name = some v) (reads : ∀ w, Carries v w → read w = some a) :
    fieldOr? name default read others = some a := by
  obtain ⟨w, other, carried⟩ := exists_lookup_of_rel field has
  rw [fieldOr?, other]
  exact reads w carried

/-- An optional field is read whether or not it is there. -/
theorem optional?_of_carries {o : Option α} {write : α → Json}
    (field : Option.Rel Carries (members.lookup name) (others.lookup name))
    (has : members.lookup name = o.map write)
    (reads : ∀ a w, Carries (write a) w → read w = some a) :
    optional? name read others = some o := by
  cases o with
  | none =>
      rw [has, Option.map_none] at field
      rw [optional?]
      generalize others.lookup name = other at field ⊢
      cases field
      rfl
  | some a =>
      obtain ⟨w, other, carried⟩ := exists_lookup_of_rel field has
      have read := reads a w carried
      rw [optional?, other]
      split
      case h_1 null =>
          cases null
          exact (carried.ne_null rfl).elim
      case h_2 absent => cases absent
      case h_3 present =>
          cases present
          rw [read]
          rfl

/-! ### Members that may be absent -/

theorem of_mem_optionalMember {o : Option α} {write : α → Json} {m : String × Json}
    (member : m ∈ optionalMember name (o.map write)) : m.1 = name ∧ ∃ a ∈ o, m.2 = write a := by
  cases o with
  | none => cases member
  | some a =>
      rw [List.mem_singleton.mp member]
      exact ⟨rfl, a, rfl, rfl⟩

theorem lookup_optionalMember (key name : String) (o : Option Json) :
    (optionalMember name o).lookup key = if key = name then o else none := by
  cases o with
  | none => simp [optionalMember]
  | some v =>
      by_cases own : key = name
      · rw [optionalMember, if_pos own, own, List.lookup_cons_self]
      · rw [optionalMember, if_neg own, List.lookup_cons, beq_false_of_ne own]
        rfl

end Carries

end QualityGate.Json
