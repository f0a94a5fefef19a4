import QualityGate.Expression.Conversion

/-!
# JSON values in expressions

A JSON value that enters an expression and leaves it again is the same value
(`Value.toJson?_ofJson`). This holds of all values that a document can hold (`Json.WellFormed`):
numbers are finite, and the members of an object stand in the order of their keys, each key once.
-/

namespace QualityGate

/-! ## Values of documents -/

/-- Whether a number is neither infinite nor not-a-number. -/
def JsonNumber.IsFinite : JsonNumber → Prop
  | integer _ => True
  | double f => f.isNaN = false ∧ f.isInf = false

namespace Json

/-- Whether members stand in the order of their keys, which are distinct. -/
def Ordered (members : List (String × Json)) : Prop := (members.map (·.1)).Pairwise (· < ·)

mutual

/-- Whether a value is one that a document can hold. -/
def WellFormed : Json → Prop
  | null | bool _ | string _ => True
  | number n => n.IsFinite
  | array items => WellFormedItems items
  | object members => Ordered members ∧ WellFormedMembers members

/-- Whether all elements of a list are values that a document can hold. -/
def WellFormedItems : List Json → Prop
  | [] => True
  | x :: xs => x.WellFormed ∧ WellFormedItems xs

/-- Whether all members have values that a document can hold. -/
def WellFormedMembers : List (String × Json) → Prop
  | [] => True
  | (_, x) :: rest => x.WellFormed ∧ WellFormedMembers rest

end

theorem wellFormedItems_iff {items : List Json} :
    WellFormedItems items ↔ ∀ item ∈ items, item.WellFormed := by
  induction items with
  | nil => simp [WellFormedItems]
  | cons x xs ih => simp [WellFormedItems, ih]

/-- A member whose key comes after all others is inserted at the end. -/
theorem insertMember_of_last {key : String} {members : List (String × Json)}
    (last : ∀ m ∈ members, m.1 < key) (value : Json) :
    insertMember key value members = members ++ [(key, value)] := by
  induction members with
  | nil => rfl
  | cons m members ih =>
      obtain ⟨before, last⟩ := List.forall_mem_cons.mp last
      have notBefore : ¬ key < m.1 := String.lt_asymm before
      have other : ¬ key = m.1 := by
        intro same
        rw [same] at before
        exact String.lt_irrefl _ before
      rw [insertMember, if_neg notBefore, if_neg other, ih last]
      rfl

end Json

/-! ## There and back -/

namespace Expression.Value

theorem toJson?_ofNumber {n : JsonNumber} (finite : n.IsFinite) :
    (ofNumber n).toJson? = some (.number n) := by
  cases n with
  | integer i =>
      unfold ofNumber
      dsimp only
      split
      case isTrue => rfl
      case isFalse large =>
          have natural : ((i.toNat : Nat) : Int) = i := by omega
          rw [toJson?, natural]
  | double f =>
      obtain ⟨number, bounded⟩ := finite
      rw [ofNumber, toJson?, doubleToJson, number, bounded]
      rfl

mutual

/-- A value that a document can hold comes back from an expression as itself. -/
theorem toJson?_ofJson : ∀ {v : Json}, v.WellFormed → (ofJson v).toJson? = some v
  | .null, _ => rfl
  | .bool _, _ => rfl
  | .string _, _ => rfl
  | .number _, finite => toJson?_ofNumber finite
  | .array items, wellFormed => by
      have back := toItems?_ofItems wellFormed
      rw [ofJson, toJson?, back]
      rfl
  | .object members, ⟨ordered, wellFormed⟩ => by
      have back : toMembers? (ofMembers members) [] = some ([] ++ members) :=
        toMembers?_ofMembers ordered wellFormed
      rw [ofJson, toJson?, back]
      rfl

theorem toItems?_ofItems : ∀ {items : List Json}, Json.WellFormedItems items →
    toItems? (ofItems items) = some items
  | [], _ => rfl
  | x :: xs, ⟨first, rest⟩ => by
      have head := toJson?_ofJson first
      have tail := toItems?_ofItems rest
      simp [ofItems, toItems?, head, tail]

/-- The members of an object are added one after the other behind those already there. -/
theorem toMembers?_ofMembers : ∀ {members acc : List (String × Json)},
    Json.Ordered (acc ++ members) → Json.WellFormedMembers members →
    toMembers? (ofMembers members) acc = some (acc ++ members)
  | [], acc, _, _ => by rw [ofMembers, toMembers?, List.append_nil]
  | (k, x) :: rest, acc, ordered, ⟨first, wellFormed⟩ => by
      have head := toJson?_ofJson first
      have last : ∀ m ∈ acc, m.1 < k := by
        intro m member
        rw [Json.Ordered, List.map_append, List.pairwise_append] at ordered
        exact ordered.2.2 m.1 (List.mem_map_of_mem member) k List.mem_cons_self
      have shape : acc ++ (k, x) :: rest = (acc ++ [(k, x)]) ++ rest := by simp
      rw [shape] at ordered ⊢
      have tail := toMembers?_ofMembers ordered wellFormed
      simp only [ofMembers, toMembers?, head, Option.bind_eq_bind, Option.bind_some, Key.render,
        Json.insertMember_of_last last, tail]

end

end Expression.Value

end QualityGate
