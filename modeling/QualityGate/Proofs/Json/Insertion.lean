import Mathlib.Data.List.Perm.Subperm
import QualityGate.Proofs.Expression.Conversion

/-!
# Members inserted one after the other

An object is built by inserting its members into one that has none (`insertAll`). The members come
to stand in the order of their keys (`Ordered.insertAll`). If their keys are distinct, then all of
them are there, and the order in which they come does not matter (`insertAll_perm`,
`insertAll_eq_of_perm`). If not, then some are lost (`nodup_of_length_insertAll`).
-/

namespace QualityGate.Json

/-- Members into which others are inserted one after the other. -/
def insertAll (members acc : List (String × Json)) : List (String × Json) :=
  members.foldl (fun acc m => insertMember m.1 m.2 acc) acc

section Insertion

variable {key name : String} {value : Json} {members others acc : List (String × Json)}

/-! ## One member -/

theorem mem_keys_insertMember :
    name ∈ (insertMember key value members).map (·.1) ↔ name = key ∨ name ∈ members.map (·.1) := by
  induction members with
  | nil => simp [insertMember]
  | cons m members ih =>
      unfold insertMember
      split
      case isTrue => rw [List.map_cons, List.mem_cons]
      case isFalse =>
          split
          case isTrue same => simp [same]
          case isFalse =>
              rw [List.map_cons, List.mem_cons, ih, List.map_cons, List.mem_cons, or_left_comm]

theorem Ordered.insertMember (ordered : Ordered members) :
    Ordered (insertMember key value members) := by
  induction members with
  | nil => simp [Ordered, Json.insertMember]
  | cons m members ih =>
      obtain ⟨first, rest⟩ := List.pairwise_cons.mp ordered
      unfold Json.insertMember
      split
      case isTrue before =>
          refine List.pairwise_cons.mpr ⟨?_, ordered⟩
          exact List.forall_mem_cons.mpr
            ⟨before, fun k member => String.lt_trans before (first k member)⟩
      case isFalse notBefore =>
          split
          case isTrue same => exact List.pairwise_cons.mpr ⟨same ▸ first, rest⟩
          case isFalse other =>
              refine List.pairwise_cons.mpr ⟨fun k member => ?_, ih rest⟩
              rcases mem_keys_insertMember.mp member with rfl | member
              · exact Std.lt_of_le_of_ne notBefore (Ne.symm other)
              · exact first k member

/-- A member with a key that is not there yet is added to the others. -/
theorem insertMember_perm (fresh : key ∉ members.map (·.1)) :
    (insertMember key value members).Perm ((key, value) :: members) := by
  induction members with
  | nil => exact .refl _
  | cons m members ih =>
      obtain ⟨other, fresh⟩ : ¬ key = m.1 ∧ key ∉ members.map (·.1) := by
        simpa only [List.map_cons, List.mem_cons, not_or] using fresh
      unfold insertMember
      split
      case isTrue => exact .refl _
      case isFalse =>
          exact ((ih fresh).cons m).trans (.swap _ _ _)

/-! ## All members -/

theorem insertAll_cons (m : String × Json) (members acc : List (String × Json)) :
    insertAll (m :: members) acc = insertAll members (Json.insertMember m.1 m.2 acc) := rfl

theorem ordered_nil : Ordered [] := List.Pairwise.nil

theorem Ordered.insertAll (ordered : Ordered acc) (members : List (String × Json)) :
    Ordered (insertAll members acc) := by
  induction members generalizing acc with
  | nil => exact ordered
  | cons m members ih => exact ih ordered.insertMember

theorem Ordered.nodup (ordered : Ordered members) : (members.map (·.1)).Nodup := by
  refine List.Pairwise.imp ?_ ordered
  rintro name _ before rfl
  exact String.lt_irrefl name before

theorem mem_keys_insertAll :
    name ∈ (insertAll members acc).map (·.1) ↔
      name ∈ members.map (·.1) ∨ name ∈ acc.map (·.1) := by
  induction members generalizing acc with
  | nil => simp [insertAll]
  | cons m members ih =>
      rw [insertAll_cons, ih, mem_keys_insertMember, List.map_cons, List.mem_cons, or_left_comm,
        or_assoc]

/-- Members with distinct keys are all there. -/
theorem insertAll_perm (distinct : ((members ++ acc).map (·.1)).Nodup) :
    (insertAll members acc).Perm (members ++ acc) := by
  induction members generalizing acc with
  | nil => exact .refl _
  | cons m members ih =>
      obtain ⟨fresh, distinct⟩ : m.1 ∉ (members ++ acc).map (·.1) ∧
        ((members ++ acc).map (·.1)).Nodup := List.nodup_cons.mp distinct
      have added : (Json.insertMember m.1 m.2 acc).Perm (m :: acc) := by
        refine insertMember_perm fun own => fresh ?_
        rw [List.map_append]
        exact List.mem_append_right _ own
      have moved : (members ++ Json.insertMember m.1 m.2 acc).Perm (m :: (members ++ acc)) :=
        (added.append_left members).trans List.perm_middle
      have still : ((members ++ Json.insertMember m.1 m.2 acc).map (·.1)).Nodup :=
        (moved.map _).nodup_iff.mpr (List.nodup_cons.mpr ⟨fresh, distinct⟩)
      exact (ih still).trans moved

theorem insertAll_nil_perm (distinct : (members.map (·.1)).Nodup) :
    (insertAll members []).Perm members := by
  rw [← List.append_nil members] at distinct
  simpa using insertAll_perm distinct

/-- The order in which members with distinct keys come does not matter. -/
theorem insertAll_eq_of_perm (distinct : (members.map (·.1)).Nodup) (perm : members.Perm others) :
    insertAll members [] = insertAll others [] := by
  have distinct' : (others.map (·.1)).Nodup := (perm.map _).nodup_iff.mp distinct
  have same := ((insertAll_nil_perm distinct).trans perm).trans (insertAll_nil_perm distinct').symm
  have ordered (ms : List (String × Json)) :
      (insertAll ms []).Pairwise fun m n => m.1 < n.1 :=
    List.pairwise_map.mp (ordered_nil.insertAll ms)
  exact same.eq_of_pairwise (fun m n _ _ less more => (String.lt_asymm less more).elim)
    (ordered members) (ordered others)

/-- If as many members are there as came, then their keys are distinct. -/
theorem nodup_of_length_insertAll (length : (insertAll members []).length = members.length) :
    (members.map (·.1)).Nodup := by
  have distinct := (ordered_nil.insertAll members).nodup
  have among : (insertAll members []).map (·.1) ⊆ members.map (·.1) := by
    intro name member
    simpa using mem_keys_insertAll.mp member
  refine ((distinct.subperm among).perm_of_length_le ?_).nodup_iff.mp distinct
  rw [List.length_map, List.length_map]
  exact Nat.le_of_eq length.symm

/-- A member is found by its key among others of different keys. -/
theorem lookup_of_mem (distinct : (members.map (·.1)).Nodup) {m : String × Json}
    (member : m ∈ members) : members.lookup m.1 = some m.2 := by
  induction members with
  | nil => cases member
  | cons n members ih =>
      obtain ⟨fresh, distinct⟩ := List.nodup_cons.mp distinct
      rcases List.mem_cons.mp member with rfl | member
      · exact List.lookup_cons_self
      · have other : m.1 ≠ n.1 := by
          intro same
          have there := List.mem_map_of_mem (f := Prod.fst) member
          rw [same] at there
          exact fresh there
        rw [List.lookup_cons, beq_false_of_ne other]
        exact ih distinct member

end Insertion

end QualityGate.Json
