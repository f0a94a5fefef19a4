import QualityGate.Condition.Reference

/-!
# Cutting tokens off texts

What is cut off a text and what is left of it make up the text, and no part of it is looked at for
the mark `$`: a text without its marks (`unmark`) is cut at the same places.
-/

namespace QualityGate.Condition

/-- A character that is no mark of references: `#` in place of `$`. -/
def unmark (c : Char) : Char := if c = '$' then '#' else c

/-- Two parts of a text without their marks. -/
def unmarkBoth (parts : List Char × List Char) : List Char × List Char :=
  (parts.1.map unmark, parts.2.map unmark)

theorem unmark_of_ne {c : Char} (other : c ≠ '$') : unmark c = c := if_neg other

/-- A property of characters that does not tell the mark from what replaces it. -/
theorem apply_unmark {α : Type} {p : Char → α} (same : p '#' = p '$') (c : Char) :
    p (unmark c) = p c := by
  by_cases mark : c = '$'
  · rw [mark]
    exact same
  · rw [unmark_of_ne mark]

/-- No character becomes another one that is not the replacement. -/
theorem unmark_eq_iff {c d : Char} (noMark : d ≠ '$') (noReplacement : d ≠ '#') :
    unmark c = d ↔ c = d := by
  have same := apply_unmark (p := fun c => decide (c = d))
    (by simp [Ne.symm noMark, Ne.symm noReplacement]) c
  simpa using same

/-! ## Segments -/

section Unmarked

variable (cs : List Char)

theorem takeWhile_map_unmark :
    (cs.map unmark).takeWhile Text.isNameRest = (cs.takeWhile Text.isNameRest).map unmark := by
  rw [List.takeWhile_map]
  congr 2
  exact funext (apply_unmark rfl)

theorem dropWhile_map_unmark :
    (cs.map unmark).dropWhile Text.isNameRest = (cs.dropWhile Text.isNameRest).map unmark := by
  rw [List.dropWhile_map]
  congr 2
  exact funext (apply_unmark rfl)

theorem splitMemberName?_map_unmark :
    splitMemberName? (cs.map unmark) = (splitMemberName? cs).map unmarkBoth := by
  cases cs with
  | nil => rfl
  | cons c cs =>
      have star : unmark c = '*' ↔ c = '*' := unmark_eq_iff (by decide) (by decide)
      have start : Text.isNameStart (unmark c) = Text.isNameStart c := apply_unmark rfl c
      simp only [List.map_cons, splitMemberName?, star, start, takeWhile_map_unmark,
        dropWhile_map_unmark]
      split
      · rfl
      · split <;> rfl

theorem splitMember?_map_unmark :
    splitMember? (cs.map unmark) = (splitMember? cs).map unmarkBoth := by
  have point (c : Char) : unmark c = '.' ↔ c = '.' := unmark_eq_iff (by decide) (by decide)
  have dot : unmark '.' = '.' := rfl
  fun_cases splitMember? cs with
  | case1 rest =>
      rw [List.map_cons, List.map_cons, dot, splitMember?, splitMemberName?_map_unmark]
      cases splitMemberName? rest <;> rfl
  | case2 rest single =>
      rw [List.map_cons, dot, splitMember?, splitMemberName?_map_unmark]
      · cases splitMemberName? rest <;> rfl
      · intro others double
        cases rest with
        | nil => cases double
        | cons d rest =>
            cases (point d).mp (List.cons.inj double).1
            exact single rest rfl
  | case3 cs _ noPoint =>
      cases cs with
      | nil => rfl
      | cons c cs =>
          have other : unmark c ≠ '.' := fun same => noPoint cs (by rw [(point c).mp same])
          simp [splitMember?, other]

end Unmarked

/-- Whether the string that a reader of a bracket segment stands in has quotes of its own. -/
def BracketState.Quoted : BracketState → Prop
  | code _ => True
  | quoted _ quote | escaped _ quote => quote ≠ '$' ∧ quote ≠ '#'

theorem BracketState.Quoted.step {s : BracketState} (quotes : s.Quoted) (c : Char) :
    (s.step c).Quoted := by
  cases s with
  | code depth =>
      unfold BracketState.step
      dsimp only
      split
      case isTrue quote => rcases quote with rfl | rfl <;> exact ⟨by decide, by decide⟩
      case isFalse => split <;> first | trivial | (split <;> trivial)
  | quoted depth quote =>
      unfold BracketState.step
      dsimp only
      split
      · exact quotes
      · split
        · trivial
        · exact quotes
  | escaped depth quote => exact quotes

theorem step_unmark {s : BracketState} (quotes : s.Quoted) (c : Char) :
    s.step (unmark c) = s.step c := by
  refine apply_unmark (p := s.step) ?_ c
  cases s with
  | code depth => rfl
  | quoted depth quote => simp [BracketState.step, Ne.symm quotes.1, Ne.symm quotes.2]
  | escaped depth quote => rfl

section Unmarked

variable (cs : List Char)

theorem splitClosed?_map_unmark {s : BracketState} (quotes : s.Quoted) :
    splitClosed? s (cs.map unmark) = (splitClosed? s cs).map unmarkBoth := by
  induction cs generalizing s with
  | nil => rfl
  | cons c cs ih =>
      simp only [List.map_cons, splitClosed?, step_unmark quotes, ih (quotes.step c)]
      split
      · rfl
      · cases splitClosed? (s.step c) cs <;> rfl

theorem splitBracket?_map_unmark :
    splitBracket? (cs.map unmark) = (splitBracket? cs).map unmarkBoth := by
  cases cs with
  | nil => rfl
  | cons c cs =>
      by_cases opens : c = '['
      · have bracket : unmark '[' = '[' := rfl
        rw [opens, List.map_cons, bracket, splitBracket?, splitBracket?,
          splitClosed?_map_unmark cs (s := .code 1) trivial]
        cases splitClosed? (.code 1) cs <;> rfl
      · have other : unmark c ≠ '[' := fun same =>
          opens ((unmark_eq_iff (by decide) (by decide)).mp same)
        simp [splitBracket?, opens, other]

theorem splitSegment?_map_unmark :
    splitSegment? (cs.map unmark) = (splitSegment? cs).map unmarkBoth := by
  rw [splitSegment?, splitSegment?, splitMember?_map_unmark, splitBracket?_map_unmark]
  cases splitMember? cs <;> rfl

theorem splitSegments_map_unmark (bound : Nat) :
    splitSegments bound (cs.map unmark) = unmarkBoth (splitSegments bound cs) := by
  induction bound generalizing cs with
  | zero => rfl
  | succ bound ih =>
      simp only [splitSegments, splitSegment?_map_unmark]
      cases splitSegment? cs with
      | none => rfl
      | some parts =>
          simp [unmarkBoth, ih]

theorem splitToken_map_unmark : splitToken (cs.map unmark) = unmarkBoth (splitToken cs) := by
  rw [splitToken, List.length_map, splitSegments_map_unmark]
  rfl

end Unmarked

/-! ## Parts of a text -/

section Parts

variable {cs a b : List Char}

theorem append_of_splitMemberName? (h : splitMemberName? cs = some (a, b)) : a ++ b = cs := by
  cases cs with
  | nil => cases h
  | cons c cs =>
      dsimp only [splitMemberName?] at h
      split at h
      case isTrue star =>
          cases h
          rw [star]
          rfl
      case isFalse =>
          split at h
          · cases h
            rw [List.cons_append, List.takeWhile_append_dropWhile]
          · cases h

theorem append_of_splitMember? (h : splitMember? cs = some (a, b)) : a ++ b = cs := by
  unfold splitMember? at h
  split at h
  case h_1 rest =>
      obtain ⟨⟨front, back⟩, name, h⟩ := Option.map_eq_some_iff.mp h
      cases h
      rw [← append_of_splitMemberName? name]
      rfl
  case h_2 rest _ =>
      obtain ⟨⟨front, back⟩, name, h⟩ := Option.map_eq_some_iff.mp h
      cases h
      rw [← append_of_splitMemberName? name]
      rfl
  case h_3 => cases h

theorem append_of_splitClosed? {s : BracketState} (h : splitClosed? s cs = some (a, b)) :
    a ++ b = cs := by
  induction cs generalizing s a b with
  | nil => cases h
  | cons c cs ih =>
      unfold splitClosed? at h
      split at h
      · cases h
        rfl
      · obtain ⟨⟨front, back⟩, closed, h⟩ := Option.map_eq_some_iff.mp h
        cases h
        rw [List.cons_append, ih closed]

theorem append_of_splitBracket? (h : splitBracket? cs = some (a, b)) : a ++ b = cs := by
  unfold splitBracket? at h
  split at h
  case h_1 rest =>
      obtain ⟨⟨front, back⟩, closed, h⟩ := Option.map_eq_some_iff.mp h
      cases h
      rw [← append_of_splitClosed? closed]
      rfl
  case h_2 => cases h

theorem append_of_splitSegment? (h : splitSegment? cs = some (a, b)) : a ++ b = cs := by
  unfold splitSegment? at h
  cases member : splitMember? cs with
  | none =>
      rw [member] at h
      exact append_of_splitBracket? h
  | some parts =>
      rw [member] at h
      exact append_of_splitMember? (member.trans h)

theorem append_splitSegments (bound : Nat) (cs : List Char) :
    (splitSegments bound cs).1 ++ (splitSegments bound cs).2 = cs := by
  induction bound generalizing cs with
  | zero => rfl
  | succ bound ih =>
      unfold splitSegments
      split
      case h_1 a rest h =>
          rw [List.append_assoc, ih, append_of_splitSegment? h]
      case h_2 => rfl

/-- A token and what is left behind it make up the text. -/
theorem append_splitToken (cs : List Char) : (splitToken cs).1 ++ (splitToken cs).2 = cs :=
  append_splitSegments _ _

/-- A token is cut off alike where only marks behind it are others. -/
theorem splitToken_append {other : List Char}
    (same : other.map unmark = (splitToken cs).2.map unmark) :
    splitToken ((splitToken cs).1 ++ other) = ((splitToken cs).1, other) := by
  have unmarked : unmarkBoth (splitToken ((splitToken cs).1 ++ other)) =
      unmarkBoth (splitToken cs) := by
    rw [← splitToken_map_unmark, ← splitToken_map_unmark, List.map_append, same,
      ← List.map_append, append_splitToken]
  have length : (splitToken ((splitToken cs).1 ++ other)).1.length = (splitToken cs).1.length := by
    simpa [unmarkBoth] using congrArg (fun parts => parts.1.length) unmarked
  obtain ⟨front, back⟩ := List.append_inj (append_splitToken ((splitToken cs).1 ++ other)) length
  exact Prod.ext front back

/-! ## Classes of candidates -/

theorem point_not_mem_of_splitLastPoint? (h : splitLastPoint? cs = none) : '.' ∉ cs := by
  induction cs with
  | nil => exact List.not_mem_nil
  | cons c cs ih =>
      unfold splitLastPoint? at h
      split at h
      case h_1 => cases h
      case h_2 behind =>
          have other : c ≠ '.' := fun point => by simp [point] at h
          exact List.not_mem_cons_of_ne_of_not_mem (Ne.symm other) (ih behind)

/-- A text is cut at its last point. -/
theorem append_of_splitLastPoint? (h : splitLastPoint? cs = some (a, b)) :
    a ++ '.' :: b = cs ∧ '.' ∉ b := by
  induction cs generalizing a b with
  | nil => cases h
  | cons c cs ih =>
      unfold splitLastPoint? at h
      split at h
      case h_1 front back cut =>
          cases h
          obtain ⟨parts, plain⟩ := ih cut
          exact ⟨by rw [List.cons_append, parts], plain⟩
      case h_2 none =>
          obtain ⟨rfl, h⟩ := Option.ite_none_right_eq_some.mp h
          cases h
          exact ⟨rfl, point_not_mem_of_splitLastPoint? none⟩

/-- A candidate is a token as a whole where one may end behind it. Before a parenthesis it is one
without the name of a method, which stands behind its last point. -/
theorem classify?_cases {candidate rest path : List Char} {membership : Bool}
    (h : classify? candidate rest = some (path, membership)) :
    (path = candidate ∧ membership = false ∧ ∀ c ∈ rest.head?, isTerminator c = true) ∨
      ∃ method, candidate = path ++ '.' :: method ∧ '.' ∉ method ∧ rest.head? = some '(' ∧
        path ≠ [] ∧ path.getLast? ≠ some '.' ∧ method ≠ [] ∧ method ≠ ['*'] := by
  unfold classify? at h
  split at h
  case h_1 =>
      cases h
      exact .inl ⟨rfl, rfl, nofun⟩
  case h_2 c rest =>
      split at h
      case isTrue terminates =>
          cases h
          refine .inl ⟨rfl, rfl, fun d head => ?_⟩
          rwa [← Option.some.inj head]
      case isFalse =>
          obtain ⟨opens, h⟩ := Option.ite_none_right_eq_some.mp h
          split at h
          case h_1 => cases h
          case h_2 front method cut =>
              obtain ⟨accepted, h⟩ := Option.ite_none_left_eq_some.mp h
              cases h
              obtain ⟨parts, plain⟩ := append_of_splitLastPoint? cut
              simp only [Bool.or_eq_true, List.isEmpty_iff, beq_iff_eq, not_or] at accepted
              obtain ⟨⟨⟨named, single⟩, method⟩, noStar⟩ := accepted
              exact .inr ⟨_, parts.symm, plain, by rw [opens]; rfl, named, single, method, noStar⟩

/-- The path of a candidate is the start of it. -/
theorem prefix_of_classify? {candidate rest path : List Char} {membership : Bool}
    (h : classify? candidate rest = some (path, membership)) : path <+: candidate := by
  rcases classify?_cases h with ⟨rfl, -, -⟩ | ⟨method, rfl, -⟩
  · exact List.prefix_refl path
  · exact List.prefix_append path _

/-- The path of a token starts with its mark. -/
theorem exists_path_of_classify? {segments rest path : List Char} {membership : Bool}
    (h : classify? ('$' :: segments) rest = some (path, membership)) :
    ∃ more, path = '$' :: more := by
  rcases classify?_cases h with ⟨rfl, -, -⟩ | ⟨method, parts, -, -, named, -⟩
  · exact ⟨segments, rfl⟩
  · obtain ⟨c, more, rfl⟩ := List.exists_cons_of_ne_nil named
    exact ⟨more, by rw [(List.cons.inj parts).1]⟩

/-- The class of a candidate does not depend on the marks behind it. -/
theorem classify?_map_unmark (candidate rest : List Char) :
    classify? candidate (rest.map unmark) = classify? candidate rest := by
  cases rest with
  | nil => rfl
  | cons c rest =>
      have terminates : isTerminator (unmark c) = isTerminator c := apply_unmark rfl c
      have opens : unmark c = '(' ↔ c = '(' := unmark_eq_iff (by decide) (by decide)
      simp only [classify?, List.map_cons, terminates, opens]

end Parts

end QualityGate.Condition
