import Mathlib.Data.List.Nodup
import QualityGate.Evaluator
import QualityGate.Json.Record
import QualityGate.Proofs.Expression.MapOrder
import QualityGate.Proofs.Json.Scalar

/-!
# Maps as objects

Maps have keys of several kinds and objects have names, so the entries of a map meet where two of
its keys become the same name, and only one of them is left. This is the only way in which entries
are lost: a value of the kinds that JSON has too always becomes JSON, and every object in it has all
entries of its map exactly when no keys meet (`Value.keepsEntries_iff_keysApart`). Keys of one kind
never do.
-/

namespace QualityGate.Expression

open Json (insertAll)

/-! ## Kinds of keys -/

namespace Key

/-- Whether two keys are of one kind. -/
def SameKind : Key → Key → Prop
  | int _, int _ | uint _, uint _ | bool _, bool _ | text _, text _ => True
  | _, _ => False

/-- Integers are written as the numbers of JSON are. -/
theorem toList_integerText (i : Int) : (integerText i).toList = Json.integerText i := by
  rw [integerText, Int.toString_eq_repr, Int.repr_eq_if, Json.integerText]
  by_cases negative : i < 0
  · have magnitude : (-i).toNat = i.natAbs := by omega
    rw [if_neg (Int.not_le.mpr negative), if_pos negative, String.toList_append, magnitude,
      Nat.toList_repr]
    rfl
  · have magnitude : i.toNat = i.natAbs := by omega
    rw [if_pos (Int.not_lt.mp negative), if_neg negative, magnitude, Nat.toList_repr]
    rfl

theorem integerText_inj {i j : Int} (same : integerText i = integerText j) : i = j := by
  have texts : Json.integerText i = Json.integerText j := by
    rw [← toList_integerText, ← toList_integerText, same]
  rw [← Json.exponentOf_integerText i, texts, Json.exponentOf_integerText]

/-- Keys of one kind have different names. -/
theorem eq_of_render {k l : Key} (kind : k.SameKind l) (same : k.render = l.render) : k = l := by
  cases k <;> cases l <;> try contradiction
  case int.int => exact congrArg int (integerText_inj same)
  case uint.uint => exact congrArg uint (Int.ofNat_inj.mp (integerText_inj same))
  case bool.bool a b =>
      revert same
      cases a <;> cases b <;> decide
  case text.text => exact congrArg text same

end Key

namespace Value

/-! ## Data -/

/-- Whether a value is of a kind that JSON has too. -/
def IsData : Value → Prop
  | double f => f.isNaN = false ∧ f.isInf = false
  | bytes _ | span _ | instant _ | method _ _ => False
  | _ => True

mutual

/-- Data has a JSON form. -/
theorem exists_toJson? : ∀ {v : Value}, (∀ x ∈ v.parts, x.IsData) → ∃ j, v.toJson? = some j
  | null, _ | bool _, _ | int _, _ | uint _, _ | double _, _ | text _, _ => ⟨_, rfl⟩
  | list items, data => by
      obtain ⟨forms, converted⟩ := exists_toItems? fun x inside => data x (.tail _ inside)
      exact ⟨.array forms, by rw [toJson?, toItems?_eq_some_iff.mpr converted]; rfl⟩
  | map entries, data => by
      obtain ⟨named, isMember⟩ := exists_isMemberFor fun x inside => data x (.tail _ inside)
      exact ⟨.object (insertAll named []),
        by rw [toJson?, toMembers?_eq_some_iff.mpr ⟨named, isMember, rfl⟩]; rfl⟩
  | bytes _, data | span _, data | instant _, data | method _ _, data =>
      (data _ (self_mem_parts _)).elim

theorem exists_toItems? : ∀ {items : List Value}, (∀ x ∈ partsOfItems items, x.IsData) →
    ∃ forms, List.Forall₂ (fun x v => x.toJson? = some v) items forms
  | [], _ => ⟨[], .nil⟩
  | x :: xs, data => by
      rw [partsOfItems, List.forall_mem_append] at data
      obtain ⟨v, own⟩ := exists_toJson? data.1
      obtain ⟨forms, others⟩ := exists_toItems? data.2
      exact ⟨v :: forms, .cons own others⟩

theorem exists_isMemberFor : ∀ {entries : List (Key × Value)},
    (∀ x ∈ partsOfEntries entries, x.IsData) → ∃ named, List.Forall₂ IsMemberFor entries named
  | [], _ => ⟨[], .nil⟩
  | (k, x) :: rest, data => by
      rw [partsOfEntries, List.forall_mem_append] at data
      obtain ⟨v, own⟩ := exists_toJson? data.1
      obtain ⟨named, others⟩ := exists_isMemberFor data.2
      exact ⟨(k.render, v) :: named, .cons ⟨rfl, own⟩ others⟩

end

mutual

/-- What is in a part of a value is in the value. -/
theorem mem_parts_trans : ∀ {v x y : Value}, x ∈ v.parts → y ∈ x.parts → y ∈ v.parts
  | list items, x, y, inside, within => by
      rcases List.mem_cons.mp inside with rfl | inside
      · exact within
      · exact .tail _ (mem_partsOfItems_trans inside within)
  | map entries, x, y, inside, within => by
      rcases List.mem_cons.mp inside with rfl | inside
      · exact within
      · exact .tail _ (mem_partsOfEntries_trans inside within)
  | null, _, _, inside, within | bool _, _, _, inside, within | int _, _, _, inside, within
  | uint _, _, _, inside, within | double _, _, _, inside, within | text _, _, _, inside, within
  | bytes _, _, _, inside, within | span _, _, _, inside, within | instant _, _, _, inside, within
  | method _ _, _, _, inside, within => by
      rwa [List.mem_singleton.mp inside] at within

theorem mem_partsOfItems_trans : ∀ {items : List Value} {x y : Value},
    x ∈ partsOfItems items → y ∈ x.parts → y ∈ partsOfItems items
  | z :: items, x, y, inside, within => by
      rw [partsOfItems, List.mem_append] at inside ⊢
      exact inside.imp (mem_parts_trans · within) (mem_partsOfItems_trans · within)

theorem mem_partsOfEntries_trans : ∀ {entries : List (Key × Value)} {x y : Value},
    x ∈ partsOfEntries entries → y ∈ x.parts → y ∈ partsOfEntries entries
  | (k, z) :: entries, x, y, inside, within => by
      rw [partsOfEntries, List.mem_append] at inside ⊢
      exact inside.imp (mem_parts_trans · within) (mem_partsOfEntries_trans · within)

end

/-! ## Entries -/

/-- Whether the object that a map becomes has as many members as the map has entries, and the value
of each entry under the name of its key. -/
def KeepsEntries : Value → Prop
  | map entries => ∃ members, (map entries).toJson? = some (.object members) ∧
      members.length = entries.length ∧
      ∀ e ∈ entries, ∃ v, e.2.toJson? = some v ∧ members.lookup e.1.render = some v
  | _ => True

/-- Whether the keys of a map are distinct and of one kind. -/
def KeysOfOneKind : Value → Prop
  | map entries => (entries.map (·.1)).Nodup ∧
      ∀ k ∈ entries.map (·.1), ∀ l ∈ entries.map (·.1), k.SameKind l
  | _ => True

section Entries

variable {v : Value} {entries : List (Key × Value)} {named : List (String × Json)}
  {e : Key × Value}

theorem exists_member (isMember : List.Forall₂ IsMemberFor entries named) (member : e ∈ entries) :
    ∃ m ∈ named, IsMemberFor e m := by
  induction isMember with
  | nil => cases member
  | @cons _ m _ named own _ ih =>
      rcases List.mem_cons.mp member with rfl | member
      · exact ⟨m, List.mem_cons_self, own⟩
      · obtain ⟨n, there, isMember⟩ := ih member
        exact ⟨n, .tail m there, isMember⟩

/-- A map keeps its entries exactly when all of its keys become different names. -/
theorem keepsEntries_iff (data : ∀ x ∈ v.parts, x.IsData) : v.KeepsEntries ↔ v.KeysApart := by
  cases v with
  | map entries =>
      obtain ⟨named, isMember⟩ := exists_isMemberFor fun x inside => data x (.tail _ inside)
      have form : (map entries).toJson? = some (.object (insertAll named [])) := by
        rw [toJson?, toMembers?_eq_some_iff.mpr ⟨named, isMember, rfl⟩]
        rfl
      have names := names_of_isMemberFor isMember
      have length := isMember.length_eq
      constructor
      · rintro ⟨members, converted, kept, -⟩
        cases form.symm.trans converted
        rw [KeysApart, ← names]
        exact Json.nodup_of_length_insertAll (kept.trans length)
      · intro apart
        rw [KeysApart, ← names] at apart
        have perm := Json.insertAll_nil_perm apart
        refine ⟨insertAll named [], form, perm.length_eq.trans length.symm, fun e member => ?_⟩
        obtain ⟨m, there, name, value⟩ := exists_member isMember member
        refine ⟨m.2, value, ?_⟩
        rw [← name]
        exact Json.lookup_of_mem ((perm.map _).nodup_iff.mpr apart) (perm.mem_iff.mpr there)
  | _ => exact Iff.rfl

/-- Distinct keys of one kind become different names. -/
theorem keysApart_of_oneKind (oneKind : v.KeysOfOneKind) : v.KeysApart := by
  cases v with
  | map entries =>
      obtain ⟨distinct, kind⟩ := oneKind
      have names : entries.map (·.1.render) = (entries.map (·.1)).map Key.render := by simp
      rw [KeysApart, names]
      exact distinct.map_on fun k member l member' => Key.eq_of_render (kind k member l member')
  | _ => trivial

end Entries

/-- Data always has a JSON form. Every object in it has all entries of its map exactly when no two
keys of one map meet under the same name, and then the form does not depend on the order in which
the entries are met. Distinct keys of one kind do not meet. -/
theorem keepsEntries_iff_keysApart {v : Value} (data : ∀ x ∈ v.parts, x.IsData) :
    ∃ j, v.toJson? = some j ∧
      ((∀ x ∈ v.parts, x.KeepsEntries) ↔ ∀ x ∈ v.parts, x.KeysApart) ∧
      ((∀ x ∈ v.parts, x.KeysApart) → ∀ w, v.Rearranges w → w.toJson? = some j) ∧
      ((∀ x ∈ v.parts, x.KeysOfOneKind) → ∀ x ∈ v.parts, x.KeysApart) := by
  obtain ⟨j, form⟩ := exists_toJson? data
  refine ⟨j, form, ?_, fun apart w order => toJson?_of_rearranges apart order form,
    fun oneKind x inside => keysApart_of_oneKind (oneKind x inside)⟩
  exact forall₂_congr fun x inside =>
    keepsEntries_iff fun y within => data y (mem_parts_trans inside within)

/-- A list with a map that has keys of all kinds and a map in it. -/
theorem keepsEntries_iff_keysApart_mixed :
    let inner := map [(.int 1, .double 0.5), (.int (-1), null)]
    let v := list [map [(.int 1, .bool true), (.uint 2, .text "2"), (.bool true, inner),
      (.text "3", uint 3)]]
    (∀ x ∈ v.parts, x.IsData) ∧ (∀ x ∈ v.parts, x.KeysApart) ∧ ∀ x ∈ v.parts, x.KeepsEntries := by
  intro inner v
  have data : ∀ x ∈ v.parts, x.IsData := by
    have half : (double 0.5).IsData := ⟨by decide, by decide⟩
    exact List.forall_iff_forall_mem.mp
      ⟨trivial, trivial, trivial, trivial, trivial, half, trivial, trivial⟩
  have apart : ∀ x ∈ v.parts, x.KeysApart := by
    have outer : ["1", "2", "true", "3"].Nodup := by decide
    have within : ["1", "-1"].Nodup := by decide
    exact List.forall_iff_forall_mem.mp
      ⟨trivial, outer, trivial, trivial, within, trivial, trivial, trivial⟩
  obtain ⟨_, -, kept, -⟩ := keepsEntries_iff_keysApart data
  exact ⟨data, apart, kept.mpr apart⟩

/-- The integer one and its text meet under one name, so of two entries one is left; which one it
is depends on the order in which they are met. The map has the size two, but as the result of an
expression it is an object with one member. -/
theorem not_keepsEntries_of_meeting :
    let v := map [(.int 1, .bool true), (.text "1", .bool true)]
    let e : Evaluator := ⟨false, 1, .none⟩
    (∀ x ∈ v.parts, x.IsData) ∧ v.toJson? = some (.object [("1", .bool true)]) ∧
      ¬ v.KeepsEntries ∧
      (map [(.int 1, .bool true), (.text "1", null)]).toJson? = some (.object [("1", .null)]) ∧
      (map [(.text "1", null), (.int 1, .bool true)]).toJson? =
        some (.object [("1", .bool true)]) ∧
      (e.compute "size(\x7b1: true, '1': true\x7d) == 2" []).toOption.bind Json.bool? =
        some true ∧
      ((e.compute "\x7b1: true, '1': true\x7d" []).toOption.bind Json.members?).map
        (fun members => members.map (·.1)) = some ["1"] := by
  intro v e
  have data : ∀ x ∈ v.parts, x.IsData :=
    List.forall_iff_forall_mem.mp ⟨trivial, trivial, trivial⟩
  refine ⟨data, rfl, ?_, rfl, rfl, by decide +kernel, by decide +kernel⟩
  have meeting : ¬ ["1", "1"].Nodup := by decide
  rw [keepsEntries_iff data]
  exact meeting

end Value

end QualityGate.Expression
