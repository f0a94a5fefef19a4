import QualityGate.Proofs.Condition.Segment
import QualityGate.Proofs.Condition.Splice

/-!
# Where tokens end

The path of a token should consist of complete segments, and behind it should stand what may follow
a token, or a point and the name of a method that is called. Before a parenthesis the name of the
method is cut off at the last point of what was read. If that ends with a bracket segment, the last
point stands within the brackets or further in front, and the path ends in the middle of a segment
or before one that is no method.

`scan_path_iff` says that this is the only exception: a token ends as it should exactly if no
bracket segment is called.
-/

namespace QualityGate.Condition

open Text (byteLength)

/-- Whether a text may stand behind the path of a token: nothing, a blank, an operator, a comma or a
closing sign, or the call of a method. -/
def MayFollow (behind : List Char) : Prop :=
  (∀ c ∈ behind.head?, isTerminator c = true) ∨
    ∃ method more, IsPlainName method ∧ behind = '.' :: method ++ '(' :: more

/-- Whether a text starts with a path that ends with a bracket segment, and a parenthesis behind
it. -/
def CallsBracket (cs : List Char) : Prop :=
  ∃ (segments : List (List Char)) (inside more : List Char), (∀ s ∈ segments, IsSegment s) ∧
    Balanced inside ∧ cs = '$' :: segments.flatten ++ ('[' :: inside ++ [']']) ++ '(' :: more

section Ends

variable {segments : List (List Char)} {segment name path rest more : List Char}
  {membership : Bool}

theorem endsPath_parenthesis (more : List Char) : EndsPath ('(' :: more) := by
  intro c head
  cases head
  decide

/-- A row of complete segments with one more at its end. -/
theorem forall_isSegment_concat :
    (∀ s ∈ segments ++ [segment], IsSegment s) ↔ (∀ s ∈ segments, IsSegment s) ∧
      IsSegment segment := by
  rw [List.forall_mem_append, List.forall_mem_singleton]

/-- A name or a star has no other characters. -/
theorem not_mem_of_member {c : Char} (member : name = ['*'] ∨ IsPlainName name) (noStar : c ≠ '*')
    (noName : Text.isNameRest c = false) : c ∉ name := by
  rcases member with rfl | plain
  · exact mt List.mem_singleton.mp noStar
  · intro within
    rw [plain.isNameRest c within] at noName
    cases noName

/-- What ends with a name or a star ends with none of these. -/
theorem getLast?_append_ne {front : List Char} {c : Char}
    (member : name = ['*'] ∨ IsPlainName name) (noStar : c ≠ '*')
    (noName : Text.isNameRest c = false) : (front ++ name).getLast? ≠ some c := by
  have nonempty : name ≠ [] := by
    rcases member with rfl | ⟨d, ds, rfl, -⟩ <;> exact List.cons_ne_nil _ _
  intro last
  rw [List.getLast?_append_of_ne_nil _ nonempty] at last
  exact not_mem_of_member member noStar noName (List.mem_of_getLast? last)

/-- A bracket segment is called exactly if what is read of a path ends with one, before a
parenthesis. -/
theorem callsBracket_iff : CallsBracket ('$' :: rest) ↔
    (splitToken rest).1.getLast? = some ']' ∧ (splitToken rest).2.head? = some '(' := by
  constructor
  · rintro ⟨segments, inside, more, complete, balanced, parts⟩
    have cut := splitToken_flatten (forall_isSegment_concat.mpr ⟨complete, .bracket balanced⟩)
      (endsPath_parenthesis more)
    have same : rest = (segments ++ ['[' :: inside ++ [']']]).flatten ++ '(' :: more := by
      simpa using parts
    rw [same, cut, List.flatten_concat, ← List.append_assoc]
    exact ⟨List.getLast?_concat, rfl⟩
  · rintro ⟨last, opens⟩
    obtain ⟨segments, complete, read⟩ := exists_segments_splitToken rest
    obtain ⟨more, behind⟩ := List.head?_eq_some_iff.mp opens
    have parts := append_splitToken rest
    rw [read] at last
    rw [read, behind] at parts
    rcases List.eq_nil_or_concat' segments with rfl | ⟨init, segment, rfl⟩
    · cases last
    · obtain ⟨front, own⟩ := forall_isSegment_concat.mp complete
      rw [List.flatten_concat] at last parts
      cases own with
      | bracket balanced => exact ⟨init, _, more, front, balanced, by rw [← parts]; simp⟩
      | child member =>
          rw [← List.singleton_append, ← List.append_assoc] at last
          exact absurd last (getLast?_append_ne member (by decide) rfl)
      | @descendant name member =>
          rw [show '.' :: '.' :: name = ['.', '.'] ++ name from rfl, ← List.append_assoc] at last
          exact absurd last (getLast?_append_ne member (by decide) rfl)

/-- A text has one last point. -/
theorem eq_of_last_point {a a' b b' : List Char} (same : a ++ '.' :: b = a' ++ '.' :: b')
    (plain : '.' ∉ b) (plain' : '.' ∉ b') : a = a' ∧ b = b' := by
  have first {more c d : List Char} (behind : '.' :: c = more ++ '.' :: d) (plain : '.' ∉ c) :
      more = [] ∧ c = d := by
    cases more with
    | nil => exact ⟨rfl, (List.cons.inj behind).2⟩
    | cons e more =>
        rw [(List.cons.inj behind).2] at plain
        exact absurd (List.mem_append_right _ List.mem_cons_self) plain
  rcases List.append_eq_append_iff.mp same with ⟨more, rfl, behind⟩ | ⟨more, rfl, behind⟩
  · obtain ⟨rfl, rfl⟩ := first behind plain
    exact ⟨(List.append_nil a).symm, rfl⟩
  · obtain ⟨rfl, rfl⟩ := first behind plain'
    exact ⟨List.append_nil a', rfl⟩

theorem point_not_mem_of_member (member : name = ['*'] ∨ IsPlainName name) : '.' ∉ name :=
  not_mem_of_member member (by decide) rfl

/-- A path before the call of a method is read with the name of the method. -/
theorem splitToken_of_call (complete : ∀ s ∈ segments, IsSegment s) (plain : IsPlainName name) :
    splitToken (segments.flatten ++ '.' :: name ++ '(' :: more) =
      (segments.flatten ++ '.' :: name, '(' :: more) := by
  have cut := splitToken_flatten (forall_isSegment_concat.mpr ⟨complete, .child (.inr plain)⟩)
    (endsPath_parenthesis more)
  rwa [List.flatten_concat] at cut

/-- A path ends with a segment, so not with a point. -/
theorem IsPath.getLast?_ne_point (complete : IsPath path) : path.getLast? ≠ some '.' := by
  obtain ⟨segments, complete, rfl⟩ := complete
  rcases List.eq_nil_or_concat' segments with rfl | ⟨init, segment, rfl⟩
  · decide
  · obtain ⟨-, own⟩ := forall_isSegment_concat.mp complete
    rw [List.flatten_concat, ← List.cons_append,
      List.getLast?_append_of_ne_nil _ own.ne_nil]
    cases own with
    | @bracket inside balanced =>
        rw [List.getLast?_concat]
        decide
    | @child name member => exact @getLast?_append_ne name ['.'] '.' member (by decide) rfl
    | @descendant name member =>
        exact @getLast?_append_ne name ['.', '.'] '.' member (by decide) rfl

/-- The name of a method that is called is cut off behind the path. -/
theorem classify?_of_call {method : List Char} (complete : IsPath path)
    (plain : IsPlainName method) (more : List Char) :
    classify? (path ++ '.' :: method) ('(' :: more) =
      some (path, method == "includes".toList) := by
  have noPoint := point_not_mem_of_member (.inr plain)
  have cut : splitLastPoint? (path ++ '.' :: method) = some (path, method) := by
    cases split : splitLastPoint? (path ++ '.' :: method) with
    | none =>
        have point : '.' ∈ path ++ '.' :: method := by simp
        exact absurd point (point_not_mem_of_splitLastPoint? split)
    | some parts =>
        obtain ⟨same, plain'⟩ := append_of_splitLastPoint? split
        obtain ⟨front, back⟩ := eq_of_last_point same plain' noPoint
        exact congrArg some (Prod.ext front back)
  have accepted : (path.isEmpty || path.getLast? == some '.' || method.isEmpty ||
      method == ['*']) = false := by
    have single := complete.getLast?_ne_point
    obtain ⟨segments, -, rfl⟩ := complete
    obtain ⟨c, cs, rfl, start, -⟩ := plain
    have noStar : c ≠ '*' := by
      rintro rfl
      cases start
    simp [single, noStar]
  have ends : isTerminator '(' = false := rfl
  simp only [classify?, ends, cut, accepted]
  rfl

/-- A path before the call of a method is complete, unless a bracket segment is called. -/
theorem isPath_of_call {method : List Char} (complete : ∀ s ∈ segments, IsSegment s)
    (cut : '$' :: segments.flatten = path ++ '.' :: method) (plain : '.' ∉ method)
    (single : path.getLast? ≠ some '.') (noStar : method ≠ ['*'])
    (noBracket : segments.flatten.getLast? ≠ some ']') : IsPath path ∧ IsPlainName method := by
  rcases List.eq_nil_or_concat' segments with rfl | ⟨init, segment, rfl⟩
  · have point : '.' ∈ ['$'] := by
      rw [show ['$'] = path ++ '.' :: method from cut]
      exact List.mem_append_right _ List.mem_cons_self
    exact absurd point (by decide)
  · obtain ⟨front, own⟩ := forall_isSegment_concat.mp complete
    rw [List.flatten_concat] at cut noBracket
    cases own with
    | @bracket inside balanced =>
        rw [← List.append_assoc, List.getLast?_concat] at noBracket
        exact absurd rfl noBracket
    | child member =>
        rw [← List.cons_append] at cut
        obtain ⟨rfl, rfl⟩ := eq_of_last_point cut (point_not_mem_of_member member) plain
        exact ⟨⟨init, front, rfl⟩, member.resolve_left noStar⟩
    | @descendant name member =>
        have cut' : ('$' :: init.flatten ++ ['.']) ++ '.' :: name = path ++ '.' :: method := by
          rw [← cut]
          simp
        obtain ⟨rfl, -⟩ := eq_of_last_point cut' (point_not_mem_of_member member) plain
        rw [List.getLast?_concat] at single
        exact absurd rfl single

/-- The path of a token is complete, and what stands behind it may follow a token, exactly if no
bracket segment is called. -/
theorem isPath_and_mayFollow_iff {behind : List Char}
    (token : classify? ('$' :: (splitToken rest).1) (splitToken rest).2 = some (path, membership))
    (parts : '$' :: rest = path ++ behind) :
    IsPath path ∧ MayFollow behind ↔ ¬ CallsBracket ('$' :: rest) := by
  obtain ⟨segments, complete, read⟩ := exists_segments_splitToken rest
  have whole := append_splitToken rest
  rw [callsBracket_iff]
  rw [read] at token whole ⊢
  rcases classify?_cases token with
    ⟨rfl, -, ends⟩ | ⟨method, cut, plain, opens, -, single, -, noStar⟩
  · -- The whole candidate is the path.
    rw [← whole, ← List.cons_append] at parts
    obtain rfl := List.append_cancel_left parts
    refine iff_of_true ⟨⟨segments, complete, rfl⟩, .inl ends⟩ fun ⟨_, opens⟩ => ?_
    cases ends _ opens
  · -- The name of a method is cut off the candidate.
    obtain ⟨more, after⟩ := List.head?_eq_some_iff.mp opens
    rw [after] at whole
    have called : behind = '.' :: method ++ '(' :: more := by
      rw [← whole, ← List.cons_append, cut, List.append_assoc] at parts
      exact (List.append_cancel_left parts).symm
    constructor
    · rintro ⟨⟨segments', complete', rfl⟩, follows⟩ ⟨last, -⟩
      -- So the name is that of a method, and the reader would have read it as the last segment.
      obtain ⟨name, more', named, same⟩ : ∃ name more', IsPlainName name ∧
          behind = '.' :: name ++ '(' :: more' := by
        refine follows.resolve_left fun ends => ?_
        cases ends '.' (by rw [called]; rfl)
      have text : rest = segments'.flatten ++ '.' :: name ++ '(' :: more' := by
        rw [List.append_assoc, ← same]
        exact (List.cons.inj parts).2
      rw [← read, text, splitToken_of_call complete' named, ← List.singleton_append,
        ← List.append_assoc] at last
      exact getLast?_append_ne (.inr named) (by decide) rfl last
    · intro noBracket
      obtain ⟨path, named⟩ := isPath_of_call complete cut plain single noStar fun last =>
        noBracket ⟨last, opens⟩
      exact ⟨path, .inr ⟨method, more, named, called⟩⟩

end Ends

/-! ## Scans -/

/-- The paths of the tokens that the answer of a scan names. -/
def tokensOf : Except Failure Reference → List String
  | .ok r => [r.path]
  | .error (.severalReferences _ tokens) => tokens
  | .error _ => []

/-- The answer of a scan names the paths of all occurrences, and no others. -/
theorem mem_tokensOf_scan_iff {condition path : String} :
    path ∈ tokensOf (Reference.scan condition) ↔
      ∃ o ∈ occurrences condition.toList, o.path = path.toList := by
  have named : tokensOf (Reference.scan condition) = (Reference.all condition).map (·.path) := by
    unfold Reference.scan
    match Reference.all condition with
    | [] => rfl
    | [_] => rfl
    | _ :: _ :: _ => rfl
  have collected : (∃ r ∈ Reference.all condition, r.path.toList = path.toList) ↔
      (∃ r ∈ ([] : List Reference), r.path.toList = path.toList) ∨
        ∃ o ∈ occurrences condition.toList, o.path = path.toList :=
    Reference.exists_path_foldl_add
  rw [named, List.mem_map]
  simpa [String.toList_inj] using collected

/-- **A token ends with a segment, unless a bracket segment is called.** The tokens that the answer
of a scan names are those that occur in the condition. The path of each occurrence consists of
complete segments, and behind it there is the end, a blank, an operator, a comma, a closing sign or
the call of a method, exactly if it is not the start of a path that ends with a bracket segment
before a parenthesis. -/
theorem scan_path_iff (condition : String) :
    (∀ path, path ∈ tokensOf (Reference.scan condition) ↔
      ∃ o ∈ occurrences condition.toList, o.path = path.toList) ∧
    ∀ o ∈ occurrences condition.toList, ∃ before behind,
      condition.toList = before ++ o.path ++ behind ∧
      o.span = ⟨byteLength before, byteLength (before ++ o.path)⟩ ∧
      (IsPath o.path ∧ MayFollow behind ↔ ¬ CallsBracket (o.path ++ behind)) := by
  refine ⟨fun path => mem_tokensOf_scan_iff, fun o found => ?_⟩
  obtain ⟨before, rest, whole, token, span⟩ := in_of_mem_occurrences found
  obtain ⟨more, parts⟩ := prefix_of_classify? token
  have text : '$' :: rest = o.path ++ (more ++ (splitToken rest).2) := by
    rw [← List.append_assoc, parts, List.cons_append, append_splitToken]
  refine ⟨before, more ++ (splitToken rest).2, ?_, ?_, ?_⟩
  · rw [whole, text, List.append_assoc]
  · rw [span, Text.byteLength_append]
  · rw [← text]
    exact isPath_and_mayFollow_iff token text

/-- A point in a text within brackets ends the token before it, so that the path is no path, where
the bracket segment is called. -/
theorem scan_of_called_bracket :
    Reference.scan "$['a.b'](1)" = .ok ⟨"$['a", false, [⟨0, 4⟩]⟩ ∧ ¬ IsPath "$['a".toList := by
  refine ⟨by rfl, ?_⟩
  rintro ⟨segments, complete, parts⟩
  have cut : splitToken (segments.flatten ++ []) = (segments.flatten, []) :=
    splitToken_flatten complete (by simp [EndsPath])
  rw [List.append_nil, ← (List.cons.inj parts).2] at cut
  exact absurd (congrArg Prod.fst cut) (by decide)

end QualityGate.Condition
