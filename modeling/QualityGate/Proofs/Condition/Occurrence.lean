import QualityGate.Proofs.Condition.Token
import QualityGate.Proofs.Text.Offset

/-!
# Occurrences of tokens

Every occurrence starts at a mark of the text, and it is determined by its place
(`Occurrence.In.eq`). Between the marks of a text nothing occurs (`occurrencesFrom_append`).
-/

namespace QualityGate.Condition

open Text (byteLength)

/-- Whether an occurrence is that of the token at a mark of the text. -/
def Occurrence.In (o : Occurrence) (text : List Char) : Prop :=
  ∃ before rest, text = before ++ '$' :: rest ∧
    classify? ('$' :: (splitToken rest).1) (splitToken rest).2 = some (o.path, o.membership) ∧
    o.span = ⟨byteLength before, byteLength before + byteLength o.path⟩

/-- Occurrences in a text with one place are the same. -/
theorem Occurrence.In.eq {o p : Occurrence} {text : List Char} (ho : o.In text) (hp : p.In text)
    (place : o.span = p.span) : o = p := by
  obtain ⟨before, rest, parts, token, span⟩ := ho
  obtain ⟨before', rest', parts', token', span'⟩ := hp
  have start : byteLength before = byteLength before' := by
    rw [span, span'] at place
    exact congrArg Span.start place
  have same := Text.eq_of_byteLength_eq (parts.symm.trans parts') start
  rw [same] at parts
  have behind := List.cons.inj (List.append_cancel_left (parts.symm.trans parts'))
  rw [behind.2, token'] at token
  obtain ⟨path, membership⟩ := Prod.mk.inj (Option.some.inj token)
  cases o
  cases p
  simp_all

theorem length_splitToken (cs : List Char) : (splitToken cs).2.length ≤ cs.length := by
  have := congrArg List.length (append_splitToken cs)
  rw [List.length_append] at this
  omega

/-- At a mark, the token occurs if it is one, and the search goes on behind it. -/
theorem occurrencesFrom_mark (bound offset : Nat) (rest : List Char) :
    occurrencesFrom (bound + 1) offset ('$' :: rest) =
      ((classify? ('$' :: (splitToken rest).1) (splitToken rest).2).map fun (path, membership) =>
          ⟨path, membership, ⟨offset, offset + byteLength path⟩⟩).toList ++
        occurrencesFrom bound (offset + byteLength ('$' :: (splitToken rest).1))
          (splitToken rest).2 := by
  rw [occurrencesFrom, if_pos rfl]
  rcases splitToken rest with ⟨segments, after⟩
  dsimp only
  cases classify? ('$' :: segments) after <;> rfl

theorem occurrencesFrom_other {bound offset : Nat} {c : Char} {rest : List Char} (other : c ≠ '$') :
    occurrencesFrom (bound + 1) offset (c :: rest) =
      occurrencesFrom bound (offset + c.utf8Size) rest := by
  rw [occurrencesFrom, if_neg other]

/-- What is found behind the start of a text is in the text. -/
theorem in_of_mem_occurrencesFrom {bound : Nat} (before : List Char) {cs : List Char}
    {o : Occurrence}
    (occurs : o ∈ occurrencesFrom bound (byteLength before) cs) : o.In (before ++ cs) := by
  induction bound generalizing before cs with
  | zero => cases occurs
  | succ bound ih =>
      match cs with
      | [] => cases occurs
      | c :: rest =>
          by_cases mark : c = '$'
          · rw [mark, occurrencesFrom_mark, ← Text.byteLength_append, List.mem_append] at occurs
            rw [mark]
            rcases occurs with here | behind
            · obtain ⟨⟨path, membership⟩, token, rfl⟩ :=
                Option.map_eq_some_iff.mp (Option.mem_toList.mp here)
              exact ⟨before, rest, rfl, token, rfl⟩
            · have found := ih _ behind
              rw [List.append_assoc, List.cons_append, append_splitToken] at found
              exact found
          · rw [occurrencesFrom_other mark] at occurs
            have size : byteLength before + c.utf8Size = byteLength (before ++ [c]) := by simp
            rw [size] at occurs
            simpa using ih _ occurs

/-- The bound does not matter where it is enough. -/
theorem occurrencesFrom_bound {bound offset : Nat} (more : Nat) {cs : List Char}
    (enough : cs.length ≤ bound) (enough' : cs.length ≤ more) :
    occurrencesFrom bound offset cs = occurrencesFrom more offset cs := by
  induction bound generalizing more offset cs with
  | zero =>
      obtain rfl : cs = [] := List.eq_nil_of_length_eq_zero (by omega)
      cases more <;> rfl
  | succ bound ih =>
      match cs, more with
      | [], 0 => rfl
      | [], more + 1 => rfl
      | c :: rest, more + 1 =>
          simp only [List.length_cons] at enough enough'
          by_cases mark : c = '$'
          · have shorter := length_splitToken rest
            rw [mark, occurrencesFrom_mark, occurrencesFrom_mark,
              ih more (by omega) (by omega)]
          · rw [occurrencesFrom_other mark, occurrencesFrom_other mark,
              ih more (by omega) (by omega)]

/-! ## Texts without occurrences -/

/-- Whether every mark of a text stands before a character that neither goes on with a path nor may
follow a token. -/
def Inert : List Char → Prop
  | [] => True
  | c :: cs => (c = '$' → ∃ d ∈ cs.head?, isTerminator d = false ∧ d ∉ ['.', '[', '(']) ∧ Inert cs

theorem inert_of_not_mem {cs : List Char} (free : '$' ∉ cs) : Inert cs := by
  induction cs with
  | nil => trivial
  | cons c cs ih =>
      obtain ⟨other, free⟩ := not_or.mp (mt List.mem_cons.mpr free)
      exact ⟨fun mark => absurd mark.symm other, ih free⟩

/-- No segment starts with a character other than a point and a bracket. -/
theorem splitToken_of_head {d : Char} (cs : List Char) (other : d ∉ ['.', '[', '(']) :
    splitToken (d :: cs) = ([], d :: cs) := by
  have noMember : splitMember? (d :: cs) = none := by
    have point : d ≠ '.' := fun eq => other (by simp [eq])
    simp [splitMember?, point]
  have noBracket : splitBracket? (d :: cs) = none := by
    have bracket : d ≠ '[' := fun eq => other (by simp [eq])
    simp [splitBracket?, bracket]
  rw [splitToken, List.length_cons, splitSegments, splitSegment?, noMember, noBracket]
  rfl

/-- Nothing occurs in an inert text, whatever follows it. -/
theorem occurrencesFrom_append {bound offset : Nat} {cs rest : List Char} (inert : Inert cs)
    (enough : (cs ++ rest).length ≤ bound) :
    occurrencesFrom bound offset (cs ++ rest) =
      occurrencesFrom bound (offset + byteLength cs) rest := by
  induction cs generalizing offset with
  | nil => rfl
  | cons c cs ih =>
      obtain ⟨behind, inert⟩ := inert
      rw [List.cons_append, List.length_cons] at enough
      have goesOn : occurrencesFrom (bound + 1) offset (c :: (cs ++ rest)) =
          occurrencesFrom bound (offset + c.utf8Size) (cs ++ rest) := by
        by_cases mark : c = '$'
        · obtain ⟨d, head, terminates, other⟩ := behind mark
          obtain ⟨more, rfl⟩ : ∃ more, cs = d :: more := List.head?_eq_some_iff.mp head
          have opens : d ≠ '(' := fun eq => other (by simp [eq])
          rw [mark, List.cons_append, occurrencesFrom_mark, splitToken_of_head _ other]
          simp [classify?, terminates, opens]
        · exact occurrencesFrom_other mark
      rw [List.cons_append, occurrencesFrom_bound (bound + 1)
        (by rw [List.length_cons]; omega) (by rw [List.length_cons]; omega), goesOn,
        ih inert (by omega), Text.byteLength_cons, Nat.add_assoc]

end QualityGate.Condition
