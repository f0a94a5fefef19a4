import QualityGate.Text.Offset

/-!
# Cutting texts at offsets

The number of bytes of the start of a text is a place of it, and every place is that of only one
start.
-/

namespace QualityGate.Text

@[simp] theorem byteLength_nil : byteLength [] = 0 := rfl

@[simp] theorem byteLength_cons (c : Char) (cs : List Char) :
    byteLength (c :: cs) = c.utf8Size + byteLength cs := rfl

@[simp] theorem byteLength_append (a b : List Char) :
    byteLength (a ++ b) = byteLength a + byteLength b := by
  induction a with
  | nil => rw [List.nil_append, byteLength_nil, Nat.zero_add]
  | cons c a ih => rw [List.cons_append, byteLength_cons, ih, byteLength_cons, Nat.add_assoc]

/-- A text is cut behind the characters that an offset counts. -/
@[simp] theorem splitAt?_byteLength (a b : List Char) :
    splitAt? (byteLength a) (a ++ b) = some (a, b) := by
  induction a with
  | nil => cases b <;> rfl
  | cons c a ih =>
      have positive := c.utf8Size_pos
      obtain ⟨n, size⟩ : ∃ n, byteLength (c :: a) = n + 1 :=
        ⟨byteLength (c :: a) - 1, by rw [byteLength_cons]; omega⟩
      have rest : n + 1 - c.utf8Size = byteLength a := by rw [← size, byteLength_cons]; omega
      have within : c.utf8Size ≤ n + 1 := by rw [← size, byteLength_cons]; omega
      rw [size, List.cons_append, splitAt?, rest, ih, if_pos within]
      rfl

/-- The part of a text between two starts of it. -/
theorem slice?_byteLength (a part b : List Char) :
    slice? (byteLength a) (byteLength (a ++ part)) (a ++ part ++ b) = some part := by
  rw [List.append_assoc, slice?, splitAt?_byteLength, Option.bind_eq_bind, Option.bind_some]
  simp

/-- An offset at which a text is cut counts the characters before it. -/
theorem splitAt?_eq_some_iff {n : Nat} {cs a b : List Char} :
    splitAt? n cs = some (a, b) ↔ cs = a ++ b ∧ byteLength a = n := by
  constructor
  · intro cut
    induction cs generalizing n a with
    | nil =>
        cases n with
        | zero =>
            cases cut
            exact ⟨rfl, rfl⟩
        | succ n => cases cut
    | cons c cs ih =>
        cases n with
        | zero =>
            cases cut
            exact ⟨rfl, rfl⟩
        | succ n =>
            rw [splitAt?] at cut
            obtain ⟨within, cut⟩ := Option.ite_none_right_eq_some.mp cut
            obtain ⟨⟨front, back⟩, cut, same⟩ := Option.map_eq_some_iff.mp cut
            cases same
            obtain ⟨rfl, bytes⟩ := ih cut
            exact ⟨rfl, by rw [byteLength_cons]; omega⟩
  · rintro ⟨rfl, rfl⟩
    exact splitAt?_byteLength a b

/-- A part of a text stands behind the characters that its first offset counts, and ends with those
that its second one counts. -/
theorem slice?_eq_some_iff {start stop : Nat} {cs part : List Char} :
    slice? start stop cs = some part ↔
      ∃ a b, cs = a ++ part ++ b ∧ byteLength a = start ∧ byteLength (a ++ part) = stop := by
  constructor
  · intro cut
    obtain ⟨⟨a, rest⟩, front, behind⟩ := Option.bind_eq_some_iff.mp cut
    obtain ⟨rfl, rfl⟩ := splitAt?_eq_some_iff.mp front
    obtain ⟨ordered, behind⟩ := Option.ite_none_right_eq_some.mp behind
    obtain ⟨⟨part', b⟩, back, same⟩ := Option.bind_eq_some_iff.mp behind
    cases same
    obtain ⟨rfl, bytes⟩ := splitAt?_eq_some_iff.mp back
    refine ⟨a, b, (List.append_assoc a part b).symm, rfl, ?_⟩
    rw [byteLength_append]
    omega
  · rintro ⟨a, b, rfl, rfl, rfl⟩
    exact slice?_byteLength a part b

/-- Of two starts of a text, the one with no more bytes is the start of the other. -/
theorem exists_append_of_byteLength_le {a a' b b' : List Char} (same : a ++ b = a' ++ b')
    (bytes : byteLength a ≤ byteLength a') : ∃ part, a' = a ++ part ∧ b = part ++ b' := by
  rcases List.append_eq_append_iff.mp same with shorter | ⟨part, rfl, rest⟩
  · exact shorter
  · rw [byteLength_append] at bytes
    cases part with
    | nil => exact ⟨[], by simp, by simpa using rest.symm⟩
    | cons c part =>
        have positive := c.utf8Size_pos
        rw [byteLength_cons] at bytes
        omega

/-- Two starts of a text with as many bytes are the same. -/
theorem eq_of_byteLength_eq {a a' b b' : List Char} (same : a ++ b = a' ++ b')
    (bytes : byteLength a = byteLength a') : a = a' := by
  have left := splitAt?_byteLength a b
  rw [same, bytes, splitAt?_byteLength] at left
  exact (Prod.mk.inj (Option.some.inj left)).1.symm

end QualityGate.Text
