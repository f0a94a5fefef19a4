import QualityGate.Condition.Reference

/-!
# What a scan answers

The answer of a scan depends on the occurrences of tokens alone: there is none, all of them have one
path, or they name several. `sameAnswer_scan_iff` says when two conditions have the same answer.
-/

namespace QualityGate.Condition

namespace Reference

/-! ## Collecting references -/

/-- The references of occurrences have the paths of these, besides those already there. -/
theorem exists_path_foldl_add {os : List Occurrence} {rs : List Reference} {path : List Char} :
    (∃ r ∈ os.foldl (fun rs o => add o rs) rs, r.path.toList = path) ↔
      (∃ r ∈ rs, r.path.toList = path) ∨ ∃ o ∈ os, o.path = path := by
  have one (o : Occurrence) (rs : List Reference) :
      (∃ r ∈ add o rs, r.path.toList = path) ↔
        (∃ r ∈ rs, r.path.toList = path) ∨ o.path = path := by
    induction rs with
    | nil => simp [add]
    | cons r rs ih =>
        unfold add
        split
        case isTrue same =>
            simpa [← same] using fun own => .inl own
        case isFalse => simp [ih, or_assoc]
  induction os generalizing rs with
  | nil => simp
  | cons o os ih =>
      rw [List.foldl_cons]
      refine ih.trans ?_
      simp [one, or_assoc]

/-- Occurrences of one path join the reference of that path. -/
theorem foldl_add_of_same {os : List Occurrence} (r : Reference)
    (same : ∀ o ∈ os, o.path = r.path.toList) :
    os.foldl (fun rs o => add o rs) [r] =
      [⟨r.path, r.membership || os.any (·.membership), r.spans ++ os.map (·.span)⟩] := by
  induction os generalizing r with
  | nil => simp
  | cons o os ih =>
      obtain ⟨own, same⟩ := List.forall_mem_cons.mp same
      rw [List.foldl_cons, add, if_pos own.symm, ih _ (by simpa using same)]
      simp [Bool.or_assoc]

end Reference

/-! ## Answers -/

/-- Whether occurrences have different paths. -/
def NamesSeveral (os : List Occurrence) : Prop := ∃ o ∈ os, ∃ p ∈ os, o.path ≠ p.path

section Answers

variable {condition : String} {os : List Occurrence}

theorem scan_of_nil (none : occurrences condition.toList = []) :
    Reference.scan condition = .error (.noReference condition) := by
  simp [Reference.scan, Reference.all, none]

theorem scan_of_single {o : Occurrence} (occurs : occurrences condition.toList = o :: os)
    (same : ∀ p ∈ os, p.path = o.path) :
    Reference.scan condition = .ok ⟨String.ofList o.path, (o :: os).any (·.membership),
      (o :: os).map (·.span)⟩ := by
  have joined := Reference.foldl_add_of_same ⟨String.ofList o.path, o.membership, [o.span]⟩
    (by simpa using same)
  simp only [Reference.scan, Reference.all, occurs, List.foldl_cons, Reference.add, joined]
  simp

theorem scan_of_several (several : NamesSeveral (occurrences condition.toList)) :
    ∃ paths, Reference.scan condition = .error (.severalReferences condition paths) := by
  obtain ⟨o, occurs, p, occurs', other⟩ := several
  have path (q : Occurrence) (member : q ∈ occurrences condition.toList) :
      ∃ r ∈ Reference.all condition, r.path.toList = q.path :=
    Reference.exists_path_foldl_add.mpr (.inr ⟨q, member, rfl⟩)
  obtain ⟨r, member, isPath⟩ := path o occurs
  obtain ⟨s, member', isPath'⟩ := path p occurs'
  match found : Reference.all condition with
  | [] =>
      rw [found] at member
      cases member
  | [only] =>
      rw [found, List.mem_singleton] at member member'
      exact absurd (isPath.symm.trans (member ▸ member' ▸ isPath')) other
  | first :: second :: rest =>
      exact ⟨(first :: second :: rest).map (·.path), by simp only [Reference.scan, found]⟩

theorem not_namesSeveral_of_same {o : Occurrence} (same : ∀ p ∈ os, p.path = o.path) :
    ¬ NamesSeveral (o :: os) := by
  have own : ∀ p ∈ o :: os, p.path = o.path := List.forall_mem_cons.mpr ⟨rfl, same⟩
  rintro ⟨p, member, q, member', other⟩
  exact other ((own p member).trans (own q member').symm)

/-- There is no occurrence, all of them have one path, or they name several. -/
theorem occurrences_cases (os : List Occurrence) :
    os = [] ∨ (∃ o rest, os = o :: rest ∧ ∀ p ∈ rest, p.path = o.path) ∨ NamesSeveral os := by
  cases os with
  | nil => exact .inl rfl
  | cons o rest =>
      by_cases same : ∀ p ∈ rest, p.path = o.path
      · exact .inr (.inl ⟨o, rest, rfl, same⟩)
      · obtain ⟨p, different⟩ := Classical.not_forall.mp same
        obtain ⟨member, other⟩ := Classical.not_imp.mp different
        exact .inr (.inr ⟨p, .tail o member, o, .head rest, other⟩)

/-- The answers of a scan, with the occurrences that lead to them. -/
theorem scan_cases (condition : String) :
    (Reference.scan condition = .error (.noReference condition) ∧
        occurrences condition.toList = []) ∨
      (∃ r, Reference.scan condition = .ok r ∧
        r.spans = (occurrences condition.toList).map (·.span) ∧
        ¬ NamesSeveral (occurrences condition.toList)) ∨
      (∃ paths, Reference.scan condition = .error (.severalReferences condition paths)) ∧
        NamesSeveral (occurrences condition.toList) := by
  rcases occurrences_cases (occurrences condition.toList) with
    none | ⟨o, os, occurs, same⟩ | several
  · exact .inl ⟨scan_of_nil none, none⟩
  · refine .inr (.inl ⟨_, scan_of_single occurs same, ?_, ?_⟩) <;> rw [occurs]
    exact not_namesSeveral_of_same same
  · exact .inr (.inr ⟨scan_of_several several, several⟩)

/-- A reference has the places of all occurrences. -/
theorem spans_of_scan {r : Reference} (scan : Reference.scan condition = .ok r) :
    r.spans = (occurrences condition.toList).map (·.span) := by
  rcases scan_cases condition with ⟨fails, -⟩ | ⟨s, scans, spans, -⟩ | ⟨⟨paths, fails⟩, -⟩
  · cases scan.symm.trans fails
  · cases scan.symm.trans scans
    exact spans
  · cases scan.symm.trans fails

end Answers

/-! ## Answers of two scans -/

/-- Whether two scans answer the same: with the same reference, or with a failure of one kind. -/
def SameAnswer : Except Failure Reference → Except Failure Reference → Prop
  | .ok r, .ok s => r = s
  | .error (.noReference _), .error (.noReference _) => True
  | .error (.severalReferences _ _), .error (.severalReferences _ _) => True
  | _, _ => False

/-- Lists are the same if what is seen of them is, and it tells their elements apart. -/
theorem eq_of_map_eq {α β : Type} {f : α → β} {xs ys : List α} (same : xs.map f = ys.map f)
    (apart : ∀ x ∈ xs, ∀ y ∈ ys, f x = f y → x = y) : xs = ys := by
  induction xs generalizing ys with
  | nil => exact (List.map_eq_nil_iff.mp same.symm).symm
  | cons x xs ih =>
      cases ys with
      | nil => cases same
      | cons y ys =>
          obtain ⟨first, rest⟩ := List.cons.inj same
          rw [apart x List.mem_cons_self y List.mem_cons_self first, ih rest]
          exact fun x member y member' => apart x (.tail _ member) y (.tail _ member')

section Pairs

variable {c d : String}

/-- Conditions with the same occurrences have the same answer. -/
theorem sameAnswer_of_eq (same : occurrences c.toList = occurrences d.toList) :
    SameAnswer (Reference.scan c) (Reference.scan d) := by
  rcases occurrences_cases (occurrences c.toList) with none | ⟨o, os, occurs, path⟩ | several
  · rw [scan_of_nil none, scan_of_nil (same ▸ none)]
    trivial
  · rw [scan_of_single occurs path, scan_of_single (same ▸ occurs) path]
    rfl
  · obtain ⟨paths, fails⟩ := scan_of_several several
    obtain ⟨paths', fails'⟩ := scan_of_several (same ▸ several)
    rw [fails, fails']
    trivial

/-- If places tell occurrences apart, then two conditions have the same answer exactly when they
have the same occurrences, or both name several paths. -/
theorem sameAnswer_scan_iff
    (apart : ∀ o ∈ occurrences c.toList, ∀ p ∈ occurrences d.toList, o.span = p.span → o = p) :
    SameAnswer (Reference.scan c) (Reference.scan d) ↔
      occurrences c.toList = occurrences d.toList ∨
        (NamesSeveral (occurrences c.toList) ∧ NamesSeveral (occurrences d.toList)) := by
  constructor
  · intro answer
    rcases scan_cases c with ⟨scan, none⟩ | ⟨r, scan, spans, -⟩ | ⟨⟨paths, scan⟩, several⟩ <;>
      rcases scan_cases d with
        ⟨scan', none'⟩ | ⟨s, scan', spans', -⟩ | ⟨⟨paths', scan'⟩, several'⟩ <;>
      rw [scan, scan'] at answer
    · exact .inl (none.trans none'.symm)
    · exact answer.elim
    · exact answer.elim
    · exact answer.elim
    · obtain rfl : r = s := answer
      exact .inl (eq_of_map_eq (spans.symm.trans spans') apart)
    · exact answer.elim
    · exact answer.elim
    · exact answer.elim
    · exact .inr ⟨several, several'⟩
  · rintro (same | ⟨several, several'⟩)
    · exact sameAnswer_of_eq same
    · obtain ⟨paths, fails⟩ := scan_of_several several
      obtain ⟨paths', fails'⟩ := scan_of_several several'
      rw [fails, fails']
      trivial

end Pairs

end QualityGate.Condition
