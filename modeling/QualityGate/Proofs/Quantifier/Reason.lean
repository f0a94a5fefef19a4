import QualityGate.Proofs.Quantifier.Condition

/-!
# What reason packages tell of

Every package that a quantifier reports tells of one item of its list (`tellsOf_of_quantify`): its
context is the item, and its reasons are the values that the condition looked at in the item, or the
item itself where it is absent. The packages of a quantified condition are those of one of its calls
(`exists_call_of_judgeQuantified`).
-/

namespace QualityGate

/-- What a package tells of an element: the values that the condition looked at in it, or, where the
element is absent, the element itself. -/
inductive ReasonPackage.TellsOf (e : Evaluator) (condition : String) (element : Json) :
    ReasonPackage → Prop
  | judged {j : Judgement} (judged : e.judge element condition = .ok j) :
      TellsOf e condition element ⟨.array j.values, some element⟩
  | absent (absent : element.isTruthy = false) :
      TellsOf e condition element ⟨element, some element⟩

/-- The context of a package is the whole element. -/
theorem ReasonPackage.TellsOf.context {e : Evaluator} {condition : String} {element : Json}
    {package : ReasonPackage} (tells : package.TellsOf e condition element) :
    package.context = some element := by
  cases tells <;> rfl

namespace Evaluator

variable {e : Evaluator} {condition : String} {items : List Json} {package : ReasonPackage}

/-! ## Items -/

theorem tellsOf_of_judgeItem {item : Json} {holds : Bool}
    (judged : e.judgeItem condition item = .ok (holds, package)) :
    package.TellsOf e condition item := by
  obtain ⟨_, -, judged⟩ := bind_eq_ok_iff.mp judged
  obtain ⟨j, own, done⟩ := bind_eq_ok_iff.mp judged
  cases done
  exact .judged own

theorem tellsOf_of_judgeOrRefuse {item : Json} {holds : Bool}
    (judged : e.judgeOrRefuse condition item = .ok (holds, package)) :
    package.TellsOf e condition item := by
  unfold judgeOrRefuse at judged
  split at judged
  case isTrue => exact tellsOf_of_judgeItem judged
  case isFalse refused =>
      obtain ⟨_, -, done⟩ := bind_eq_ok_iff.mp judged
      cases done
      exact .absent (by simpa using refused)

/-! ## Searches through a list -/

section Searches

variable {test : Json → Except Failure (Bool × ReasonPackage)} {exhaustive wanted : Bool}
  {P : ReasonPackage → Prop}

/-- What the test says of every item is true of the packages that are found. -/
theorem forall_of_collect {packages : List ReasonPackage}
    (each : ∀ item ∈ items, ∀ holds package, test item = .ok (holds, package) → P package)
    (done : collect exhaustive wanted test items = .ok packages) : ∀ p ∈ packages, P p := by
  induction items generalizing packages with
  | nil =>
      cases done
      exact List.forall_mem_nil _
  | cons item rest ih =>
      obtain ⟨own, each⟩ := List.forall_mem_cons.mp each
      obtain ⟨⟨holds, package⟩, tested, done⟩ := bind_eq_ok_iff.mp done
      have first := own holds package tested
      dsimp only at done
      split at done
      · split at done
        · obtain ⟨others, more, done⟩ := bind_eq_ok_iff.mp done
          cases done
          exact List.forall_mem_cons.mpr ⟨first, ih each more⟩
        · cases done
          exact List.forall_mem_singleton.mpr first
      · exact ih each done

theorem forall_of_search {found : Bool} {packages : List ReasonPackage}
    (each : ∀ item ∈ items, ∀ holds package, test item = .ok (holds, package) → P package)
    (done : search test items = .ok (found, packages)) : ∀ p ∈ packages, P p := by
  induction items generalizing found packages with
  | nil =>
      cases done
      exact List.forall_mem_nil _
  | cons item rest ih =>
      obtain ⟨own, each⟩ := List.forall_mem_cons.mp each
      obtain ⟨⟨holds, package⟩, tested, done⟩ := bind_eq_ok_iff.mp done
      have first := own holds package tested
      dsimp only at done
      split at done
      · cases done
        exact List.forall_mem_singleton.mpr first
      · obtain ⟨⟨found', others⟩, more, done⟩ := bind_eq_ok_iff.mp done
        cases done
        exact List.forall_mem_cons.mpr ⟨first, ih each more⟩

theorem forall_of_divide {valid invalid v i : List ReasonPackage}
    (each : ∀ item ∈ items, ∀ holds package, test item = .ok (holds, package) → P package)
    (passed : ∀ p ∈ valid, P p) (failed : ∀ p ∈ invalid, P p)
    (done : divide exhaustive test valid invalid items = .ok (v, i)) :
    (∀ p ∈ v, P p) ∧ ∀ p ∈ i, P p := by
  induction items generalizing valid invalid with
  | nil =>
      cases done
      exact ⟨passed, failed⟩
  | cons item rest ih =>
      obtain ⟨own, each⟩ := List.forall_mem_cons.mp each
      obtain ⟨⟨holds, package⟩, tested, done⟩ := bind_eq_ok_iff.mp done
      have first : ∀ p ∈ [package], P p := List.forall_mem_singleton.mpr (own holds package tested)
      have passed' := List.forall_mem_append.mpr ⟨passed, first⟩
      dsimp only at done
      split at done
      · split at done
        · exact ih each passed' failed done
        · cases done
          exact ⟨passed', failed⟩
      · exact ih each passed (List.forall_mem_append.mpr ⟨failed, first⟩) done

end Searches

/-! ## Quantifiers -/

theorem eq_of_ofOffences {found packages : List ReasonPackage}
    (reported : (QuantifierOutcome.ofOffences found).packages = some packages) :
    packages = found := by
  unfold QuantifierOutcome.ofOffences at reported
  split at reported
  · cases reported
  · exact (Option.some.inj reported).symm

/-- Every package of a quantifier tells of an item of its list. -/
theorem tellsOf_of_quantify {q : Quantifier} {o : QuantifierOutcome}
    {packages : List ReasonPackage} (ok : e.quantify q items condition = .ok o)
    (reported : o.packages = some packages) :
    ∀ p ∈ packages, ∃ item ∈ items, p.TellsOf e condition item := by
  let P (p : ReasonPackage) : Prop := ∃ item ∈ items, p.TellsOf e condition item
  have judged (item : Json) (member : item ∈ items.filter Json.isTruthy) (holds : Bool)
      (p : ReasonPackage) (tested : e.judgeItem condition item = .ok (holds, p)) : P p :=
    ⟨item, List.mem_of_mem_filter member, tellsOf_of_judgeItem tested⟩
  have refused (item : Json) (member : item ∈ items) (holds : Bool) (p : ReasonPackage)
      (tested : e.judgeOrRefuse condition item = .ok (holds, p)) : P p :=
    ⟨item, member, tellsOf_of_judgeOrRefuse tested⟩
  cases q with
  | all =>
      obtain ⟨failures, collected, done⟩ := bind_eq_ok_iff.mp ok
      cases done
      exact eq_of_ofOffences reported ▸ forall_of_collect refused collected
  | any =>
      obtain ⟨⟨found, examined⟩, searched, done⟩ := bind_eq_ok_iff.mp ok
      cases done
      cases reported
      exact forall_of_search judged searched
  | one =>
      obtain ⟨⟨valid, invalid⟩, divided, done⟩ := bind_eq_ok_iff.mp ok
      obtain ⟨passed, failed⟩ := forall_of_divide refused (by simp) (by simp) divided
      match valid with
      | [] =>
          cases done
          cases reported
          exact failed
      | [_] | _ :: _ :: _ =>
          cases done
          cases reported
          exact passed
  | none =>
      obtain ⟨matching, collected, done⟩ := bind_eq_ok_iff.mp ok
      cases done
      exact eq_of_ofOffences reported ▸ forall_of_collect judged collected

/-! ## Quantified conditions -/

/-- The last packages among calls that all come to outcomes are those of one of them. -/
theorem exists_of_lastPackages {calls : List QuantifierCall} {packages : List ReasonPackage}
    (last : lastPackages calls = some packages) :
    ∃ o : QuantifierOutcome, .ok o ∈ calls ∧ o.packages = some packages := by
  obtain ⟨o, ends, reported⟩ := Option.bind_eq_some_iff.mp last
  obtain ⟨call, member, outcome⟩ := List.mem_filterMap.mp (List.mem_of_getLast? ends)
  cases call with
  | error failure => cases outcome
  | ok own =>
      cases outcome
      exact ⟨o, member, reported⟩

/-- The packages of a quantified condition are those of a call of a quantifier that it makes. -/
theorem exists_call_of_judgeQuantified [Readers] {o : QuantifierOutcome}
    {packages : List ReasonPackage}
    (judged : e.judgeQuantified items condition = .ok o) (reported : o.packages = some packages) :
    ∃ own q items' condition', .ok own ∈ (e.quantifiedRun items condition).1 ∧
      (e.withDeadline e.timeout).quantify q items' condition' = .ok own ∧
      own.packages = some packages := by
  obtain ⟨-, value, -, rfl⟩ := judgeQuantified_eq_ok_iff.mp judged
  obtain ⟨own, made, reported⟩ := exists_of_lastPackages reported
  obtain ⟨q, items', condition', call⟩ := eq_quantify_of_mem_quantifiedRun made
  exact ⟨own, q, items', condition', made, call.symm, reported⟩

end Evaluator

end QualityGate
