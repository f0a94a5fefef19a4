import QualityGate.Check.Result
import QualityGate.Proofs.Failure
import QualityGate.Proofs.Path.Selection

/-!
# The two ways of a check

A check that has nothing to judge comes to a status of its options at once; any other judges what it
selected. Which way it takes is a matter of its reference and of what that selects
(`isSome_settledBefore?_iff`). By a condition without quantifiers, a check of a whole document
reports the document, and what is kept of it as its context (`check_of_plain`).
-/

namespace QualityGate.Evaluator

variable {e : Evaluator} {d : CheckDefinition} {document : Json} {values : List Json}

/-- There is nothing to judge if no value is selected, and by a path without a filter, or a single
value without content. -/
theorem isSome_settledBefore?_iff :
    (settledBefore? d values).isSome = true ↔
      (values = [] ∧ Path.mentionsFilter d.reference = false) ∨
        ∃ only, values = [only] ∧ only.isHollow = true := by
  match values with
  | [] => simp [settledBefore?]
  | [only] => simp [settledBefore?]
  | _ :: _ :: _ => simp [settledBefore?]

/-- A check with nothing to judge. -/
theorem check_of_settled [Readers] {status : Status}
    (selected : Path.select document d.reference = .ok values)
    (settled : settledBefore? d values = some status) :
    e.check d document = .ok ⟨d.reference, d.condition, status, false, []⟩ := by
  rw [check, selected, ok_bind, settled]
  rfl

/-- A check that judges what it selected. -/
theorem check_of_unsettled [Readers] (selected : Path.select document d.reference = .ok values)
    (unsettled : settledBefore? d values = .none) :
    e.check d document = do
      let finding ← e.judgeSelected d.condition values d.options
      let packages ← ReasonPackage.trimAll d.options.log finding.packages
      return ⟨d.reference, d.condition,
        finding.settled.getD (d.options.statusFor finding.holds), finding.holds, packages⟩ := by
  rw [check, selected, ok_bind, unsettled]

section Plain

variable {condition path : String} {prepared : Condition.Prepared} {o : CheckOptions}
  {holds : Bool} {reasons context : Json} {kept : Option Json}

theorem judge_of_root (prepares : Condition.prepare condition = .ok prepared)
    (root : prepared.reference.path = "$")
    (computed : (e.compute prepared.expression (Condition.bindings [document])).toOption.map
      Json.isTruthy = some holds) :
    e.judge document condition = .ok ⟨holds, [document]⟩ := by
  obtain ⟨result, computed, truth⟩ := exists_ok_of_map_toOption computed
  have values : Condition.valuesOf document "$" = .ok [document] := by
    rw [Condition.valuesOf, Path.select_root, ite_self]
  rw [judge, prepares, ok_bind, root, values, ok_bind, computed, ok_bind, truth]
  rfl

/-- A check of the whole document by a condition about all of it. -/
theorem check_of_plain [Readers] (content : document.isHollow = false)
    (plain : Quantifier.isQuantified condition = false)
    (judged : e.judge document condition = .ok ⟨holds, [document]⟩) :
    e.check ⟨"$", condition, o⟩ document = do
      let packages ← ReasonPackage.trimAll o.log [⟨.array [document], some document⟩]
      return ⟨"$", condition, o.statusFor holds, holds, packages⟩ := by
  have unsettled : settledBefore? ⟨"$", condition, o⟩ [document] = .none := by
    rw [settledBefore?, content]
    rfl
  have subject : subjectOf [document] = document := rfl
  rw [check_of_unsettled (Path.select_root document) unsettled, judgeSelected, plain, subject]
  dsimp only
  rw [if_neg Bool.false_ne_true, judged]
  rfl

/-- Of a list or an object, the first value of the log path is kept. -/
theorem trimAll_singleton (container : context.isContainer = true)
    (first : Path.selectFirst context path = .ok kept) :
    ReasonPackage.trimAll (some path) [⟨reasons, some context⟩] = .ok [⟨reasons, kept⟩] := by
  have trimmed : ReasonPackage.trim ⟨reasons, some context⟩ (some path) = .ok ⟨reasons, kept⟩ := by
    unfold ReasonPackage.trim
    dsimp only
    rw [if_pos container, first]
    rfl
  rw [ReasonPackage.trimAll, trimmed]
  rfl

end Plain

end QualityGate.Evaluator
