import Mathlib.Data.List.Forall2
import QualityGate.Proofs.Json.Insertion

/-!
# Maps in any order

The entries of a map have no order of their own: whoever goes through them may meet them in any
order (`Value.Rearranges`). The JSON form of a value does not depend on it as long as no two keys of
one map become the same name (`Value.toJson?_of_rearranges`). The maps that documents become are of
that kind, so a document that enters an expression comes back as itself in whatever order the
entries are met, and no integer of 64 bits is cut on the way
(`Value.toJson?_of_rearranges_ofJson`).
-/

namespace QualityGate

open Json

namespace Expression.Value

/-! ## The values in a value -/

mutual

/-- A value and all values in its lists and maps. -/
def parts : Value → List Value
  | list items => list items :: partsOfItems items
  | map entries => map entries :: partsOfEntries entries
  | v => [v]

/-- The elements of a list and all values in them. -/
def partsOfItems : List Value → List Value
  | [] => []
  | x :: xs => x.parts ++ partsOfItems xs

/-- The values of entries and all values in them. -/
def partsOfEntries : List (Key × Value) → List Value
  | [] => []
  | (_, x) :: rest => x.parts ++ partsOfEntries rest

end

theorem self_mem_parts (v : Value) : v ∈ v.parts := by
  cases v <;> exact List.mem_cons_self

/-! ## Members for entries -/

/-- Whether a member is the one for an entry. -/
def IsMemberFor (e : Key × Value) (m : String × Json) : Prop :=
  m.1 = e.1.render ∧ e.2.toJson? = some m.2

/-- Whether all keys of a map become different names. -/
def KeysApart : Value → Prop
  | map entries => (entries.map (·.1.render)).Nodup
  | _ => True

section Members

variable {items : List Value} {entries : List (Key × Value)} {others : List Json}
  {members named acc : List (String × Json)}

theorem toItems?_eq_some_iff :
    toItems? items = some others ↔ List.Forall₂ (fun x v => x.toJson? = some v) items others := by
  induction items generalizing others with
  | nil => simp [toItems?, eq_comm]
  | cons x xs ih =>
      rw [List.forall₂_cons_left_iff]
      simp only [toItems?, Option.bind_eq_bind, Option.bind_eq_some_iff, ih, pure,
        Option.some.injEq]
      constructor
      · rintro ⟨v, own, more, rest, rfl⟩
        exact ⟨v, more, own, rest, rfl⟩
      · rintro ⟨v, more, own, rest, rfl⟩
        exact ⟨v, own, more, rest, rfl⟩

/-- The members for entries are inserted one after the other. -/
theorem toMembers?_eq_some_iff :
    toMembers? entries acc = some members ↔
      ∃ named, List.Forall₂ IsMemberFor entries named ∧ members = insertAll named acc := by
  induction entries generalizing acc with
  | nil => simp [toMembers?, insertAll, eq_comm]
  | cons e entries ih =>
      rw [toMembers?, Option.bind_eq_bind, Option.bind_eq_some_iff]
      constructor
      · rintro ⟨v, own, rest⟩
        obtain ⟨named, isMember, rfl⟩ := ih.mp rest
        exact ⟨(e.1.render, v) :: named, .cons ⟨rfl, own⟩ isMember, rfl⟩
      · rintro ⟨_, isMember, rfl⟩
        cases isMember with
        | @cons _ m _ named own isMember =>
            obtain ⟨name, own⟩ := own
            exact ⟨m.2, own, ih.mpr ⟨named, isMember, by rw [insertAll_cons, name]⟩⟩

theorem names_of_isMemberFor (isMember : List.Forall₂ IsMemberFor entries named) :
    named.map (·.1) = entries.map (·.1.render) := by
  induction isMember with
  | nil => rfl
  | cons own _ ih => rw [List.map_cons, List.map_cons, ih, own.1]

end Members

/-! ## Order -/

mutual

/-- Whether the second value is the first one with the entries of its maps in any order. -/
inductive Rearranges : Value → Value → Prop
  | self (v : Value) : Rearranges v v
  | list {items others : List Value} :
    List.Forall₂ Rearranges items others → Rearranges (.list items) (.list others)
  | map {entries between others : List (Key × Value)} :
    RearrangesValues entries between → between.Perm others →
    Rearranges (.map entries) (.map others)

/-- Whether the second entries are the first ones with their values rearranged. -/
inductive RearrangesValues : List (Key × Value) → List (Key × Value) → Prop
  | nil : RearrangesValues [] []
  | cons {k : Key} {x y : Value} {entries others : List (Key × Value)} :
    Rearranges x y → RearrangesValues entries others →
    RearrangesValues ((k, x) :: entries) ((k, y) :: others)

end

mutual

/-- The order of entries does not matter where all keys of a map become different names. -/
theorem toJson?_of_rearranges : ∀ {v w : Value} {j : Json}, (∀ x ∈ v.parts, x.KeysApart) →
    Rearranges v w → v.toJson? = some j → w.toJson? = some j
  | _, _, _, _, .self _, form => form
  | .list items, _, _, apart, .list same, form => by
      obtain ⟨forms, converted, rfl⟩ := Option.map_eq_some_iff.mp form
      have again := toItems?_of_rearranges (fun x inside => apart x (.tail _ inside)) same
        (toItems?_eq_some_iff.mp converted)
      rw [toJson?, toItems?_eq_some_iff.mpr again]
      rfl
  | .map entries, _, _, apart, .map same perm, form => by
      obtain ⟨members, converted, rfl⟩ := Option.map_eq_some_iff.mp form
      obtain ⟨named, isMember, rfl⟩ := toMembers?_eq_some_iff.mp converted
      have between := isMemberFor_of_rearranges (fun x inside => apart x (.tail _ inside)) same
        isMember
      obtain ⟨renamed, isMember', perm'⟩ := List.perm_comp_forall₂ perm.symm between
      have distinct : (named.map (·.1)).Nodup := by
        rw [names_of_isMemberFor isMember]
        exact apart _ (self_mem_parts _)
      rw [toJson?, toMembers?_eq_some_iff.mpr ⟨renamed, isMember', rfl⟩,
        insertAll_eq_of_perm distinct perm'.symm]
      rfl

theorem toItems?_of_rearranges : ∀ {items others : List Value} {forms : List Json},
    (∀ x ∈ partsOfItems items, x.KeysApart) → List.Forall₂ Rearranges items others →
    List.Forall₂ (fun x v => x.toJson? = some v) items forms →
    List.Forall₂ (fun x v => x.toJson? = some v) others forms
  | [], _, _, _, .nil, .nil => .nil
  | x :: xs, _, _, apart, .cons own same, .cons form forms => by
      rw [partsOfItems, List.forall_mem_append] at apart
      exact .cons (toJson?_of_rearranges apart.1 own form)
        (toItems?_of_rearranges apart.2 same forms)

theorem isMemberFor_of_rearranges : ∀ {entries others : List (Key × Value)}
    {named : List (String × Json)}, (∀ x ∈ partsOfEntries entries, x.KeysApart) →
    RearrangesValues entries others →
    List.Forall₂ IsMemberFor entries named → List.Forall₂ IsMemberFor others named
  | [], _, _, _, .nil, .nil => .nil
  | (k, x) :: rest, _, _, apart, .cons own same, .cons form forms => by
      rw [partsOfEntries, List.forall_mem_append] at apart
      exact .cons ⟨form.1, toJson?_of_rearranges apart.1 own form.2⟩
        (isMemberFor_of_rearranges apart.2 same forms)

end

end Expression.Value

/-! ## Documents -/

namespace Json

mutual

/-- A value and all values in its arrays and objects. -/
def parts : Json → List Json
  | array items => array items :: partsOfItems items
  | object members => object members :: partsOfMembers members
  | v => [v]

/-- The elements of an array and all values in them. -/
def partsOfItems : List Json → List Json
  | [] => []
  | x :: xs => x.parts ++ partsOfItems xs

/-- The values of members and all values in them. -/
def partsOfMembers : List (String × Json) → List Json
  | [] => []
  | (_, x) :: rest => x.parts ++ partsOfMembers rest

end

mutual

theorem wellFormed_of_mem_parts : ∀ {v : Json}, v.WellFormed → ∀ u ∈ v.parts, u.WellFormed
  | .null, wellFormed | .bool _, wellFormed | .number _, wellFormed | .string _, wellFormed =>
      List.forall_mem_singleton.mpr wellFormed
  | .array _, wellFormed =>
      List.forall_mem_cons.mpr ⟨wellFormed, wellFormed_of_mem_partsOfItems wellFormed⟩
  | .object _, wellFormed =>
      List.forall_mem_cons.mpr ⟨wellFormed, wellFormed_of_mem_partsOfMembers wellFormed.2⟩

theorem wellFormed_of_mem_partsOfItems : ∀ {items : List Json}, WellFormedItems items →
    ∀ u ∈ partsOfItems items, u.WellFormed
  | [], _ => nofun
  | _ :: _, ⟨first, rest⟩ => List.forall_mem_append.mpr
      ⟨wellFormed_of_mem_parts first, wellFormed_of_mem_partsOfItems rest⟩

theorem wellFormed_of_mem_partsOfMembers : ∀ {members : List (String × Json)},
    WellFormedMembers members → ∀ u ∈ partsOfMembers members, u.WellFormed
  | [], _ => nofun
  | (_, _) :: _, ⟨first, rest⟩ => List.forall_mem_append.mpr
      ⟨wellFormed_of_mem_parts first, wellFormed_of_mem_partsOfMembers rest⟩

end

/-- Whether a value is no integer beyond those of 64 bits, with a sign or without one. -/
def Fits : Json → Prop
  | number (.integer i) => -0x8000_0000_0000_0000 ≤ i ∧ i < 0x1_0000_0000_0000_0000
  | _ => True

end Json

namespace Expression.Value

/-- Whether a value is no integer beyond those of its kind, which have 64 bits. -/
def Fits : Value → Prop
  | int i => -0x8000_0000_0000_0000 ≤ i ∧ i < 0x8000_0000_0000_0000
  | uint n => n < 0x1_0000_0000_0000_0000
  | _ => True

mutual

theorem parts_ofJson : ∀ v : Json, (ofJson v).parts = v.parts.map ofJson
  | .null | .bool _ | .string _ => rfl
  | .number n => by
      rw [Json.parts, List.map_singleton, ofJson]
      · cases n with
        | integer i =>
            unfold ofNumber
            dsimp only
            split <;> rfl
        | double f => rfl
      all_goals nofun
  | .array items => by
      rw [Json.parts, List.map_cons, ofJson, parts, parts_ofItems]
  | .object members => by
      rw [Json.parts, List.map_cons, ofJson, parts, parts_ofMembers]

theorem parts_ofItems : ∀ items : List Json,
    partsOfItems (ofItems items) = (Json.partsOfItems items).map ofJson
  | [] => rfl
  | x :: xs => by
      rw [ofItems, partsOfItems, Json.partsOfItems, List.map_append, parts_ofJson, parts_ofItems]

theorem parts_ofMembers : ∀ members : List (String × Json),
    partsOfEntries (ofMembers members) = (Json.partsOfMembers members).map ofJson
  | [] => rfl
  | (k, x) :: rest => by
      rw [ofMembers, partsOfEntries, Json.partsOfMembers, List.map_append, parts_ofJson,
        parts_ofMembers]

end

theorem names_ofMembers (members : List (String × Json)) :
    (ofMembers members).map (·.1.render) = members.map (·.1) := by
  induction members with
  | nil => rfl
  | cons m members ih => rw [ofMembers, List.map_cons, List.map_cons, ih, Key.render]

theorem keysApart_ofJson {v : Json} (wellFormed : v.WellFormed) : (ofJson v).KeysApart := by
  cases v with
  | object members =>
      rw [ofJson, KeysApart, names_ofMembers]
      exact Ordered.nodup wellFormed.1
  | number n =>
      rw [ofJson]
      cases n with
      | integer i =>
          unfold ofNumber
          dsimp only
          split <;> trivial
      | double f => trivial
  | _ => trivial

/-- An integer beyond the signed ones of 64 bits becomes an unsigned one of as many. -/
theorem fits_ofJson {v : Json} (fits : v.Fits) : (ofJson v).Fits := by
  cases v with
  | number n =>
      rw [ofJson]
      cases n with
      | integer i =>
          obtain ⟨low, high⟩ := fits
          unfold ofNumber
          dsimp only
          split
          case isTrue small => exact ⟨low, small⟩
          case isFalse large =>
              show i.toNat < _
              omega
      | double f => trivial
  | _ => trivial

/-- A document that enters an expression comes back as itself, in whatever order the entries of its
maps are met. If its integers have 64 bits, then so have those that they become. -/
theorem toJson?_of_rearranges_ofJson {v : Json} {w : Value} (wellFormed : v.WellFormed)
    (order : (ofJson v).Rearranges w) :
    w.toJson? = some v ∧ ((∀ u ∈ v.parts, u.Fits) → ∀ x ∈ (ofJson v).parts, x.Fits) := by
  have whole (p : Value → Prop) :
      (∀ x ∈ (ofJson v).parts, p x) ↔ ∀ u ∈ v.parts, p (ofJson u) := by
    rw [parts_ofJson, List.forall_mem_map]
  constructor
  · have apart := (whole KeysApart).mpr fun u inside =>
      keysApart_ofJson (wellFormed_of_mem_parts wellFormed u inside)
    exact toJson?_of_rearranges apart order (toJson?_ofJson wellFormed)
  · exact fun fits => (whole Fits).mpr fun u inside => fits_ofJson (fits u inside)

/-- The least and the greatest integers, whole doubles and nested objects, with the entries met in
the opposite order. -/
theorem toJson?_of_rearranges_ofJson_reversed :
    let numbers := Json.array [.number (.integer (-0x8000_0000_0000_0000)),
      .number (.integer 0x8000_0000_0000_0000), .number (.integer 0xffff_ffff_ffff_ffff),
      .number (.double 3.0), .number (.double (-0.0))]
    let inner := Json.object [("1", .null), ("x", .string "1")]
    let reversed := Value.map [(.text "x", .text "1"), (.text "1", .null)]
    let v := Json.object [("a", numbers), ("b", inner)]
    let w := Value.map [(.text "b", reversed), (.text "a", ofJson numbers)]
    v.WellFormed ∧ (ofJson v).Rearranges w ∧ (∀ u ∈ v.parts, u.Fits) ∧ w.toJson? = some v := by
  intro numbers inner reversed v w
  have wellFormed : v.WellFormed := by
    have three : (JsonNumber.double 3.0).IsFinite := ⟨by decide, by decide⟩
    have zero : (JsonNumber.double (-0.0)).IsFinite := ⟨by decide, by decide⟩
    have outer : ["a", "b"].Pairwise (· < ·) := by decide
    have within : ["1", "x"].Pairwise (· < ·) := by decide
    have finite : numbers.WellFormed := ⟨trivial, trivial, trivial, three, zero, trivial⟩
    exact ⟨outer, finite, ⟨within, trivial, trivial, trivial⟩, trivial⟩
  have order : (ofJson v).Rearranges w :=
    .map (.cons (.self _) (.cons (.map (.cons (.self _) (.cons (.self _) .nil)) (.swap _ _ _)) .nil))
      (.swap _ _ _)
  have fits : ∀ u ∈ v.parts, u.Fits := by
    simp [v, numbers, inner, Json.parts, Json.partsOfMembers, Json.partsOfItems, Json.Fits]
  exact ⟨wellFormed, order, fits, (toJson?_of_rearranges_ofJson wellFormed order).1⟩

end Expression.Value

end QualityGate
