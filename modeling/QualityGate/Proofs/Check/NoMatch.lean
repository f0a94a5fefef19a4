import QualityGate.Proofs.Check.Result
import QualityGate.Proofs.Path.Filter
import QualityGate.Proofs.Path.Selection

/-!
# Checks that select nothing

A check that selects nothing should come to the not-found status if its reference has no filter, and
should be judged if it has one. It looks for the mark `[?` in the text of the reference instead,
which comes to the same for the references that `Path.MarksFilters` describes (`check_of_no_match`).
-/

namespace QualityGate

/-- The result of a check that selects nothing and is not judged. -/
def CheckDefinition.notFound (d : CheckDefinition) : CheckResult :=
  ⟨d.reference, d.condition, d.options.notFoundStatus, false, []⟩

namespace Evaluator

/-- Runs a check that selects nothing and is judged. -/
def checkNothing [Readers] (e : Evaluator) (d : CheckDefinition) : Except Failure CheckResult := do
  let finding ← e.judgeSelected d.condition [] d.options
  let packages ← ReasonPackage.trimAll d.options.log finding.packages
  return ⟨d.reference, d.condition, finding.settled.getD (d.options.statusFor finding.holds),
    finding.holds, packages⟩

/-- **A check that selects nothing is judged by the mark `[?`.** Where its reference selects
nothing, a check is judged if the text of the reference contains the mark, and comes to the
not-found status otherwise. The text contains the mark just if the path has a filter, exactly if the
mark stands outside of strings, or there is no filter and no mark in a string, or both. -/
theorem check_of_no_match [Readers] {d : CheckDefinition} {p : Path}
    (parsed : Path.parse? d.reference = some p) :
    (Path.mentionsFilter d.reference = p.hasFilter ↔ Path.MarksFilters d.reference) ∧
      ∀ (e : Evaluator) (document : Json), p.query document = [] →
        e.check d document =
          if Path.mentionsFilter d.reference = true then e.checkNothing d else .ok d.notFound := by
  refine ⟨Path.mentionsFilter_eq_hasFilter_iff parsed, fun e document nothing => ?_⟩
  have selected : Path.select document d.reference = .ok [] := by
    simp only [Path.select, Path.compile, parsed, nothing]
  split
  case isTrue mentions => exact check_of_unsettled selected (if_pos mentions)
  case isFalse plain => exact check_of_settled selected (if_neg plain)

/-- A filter that is written with the mark is judged where it selects nothing. -/
theorem check_of_marked_filter :
    let d : CheckDefinition := ⟨"$[?@.a]", "none(ref, '$ > 0')", .none⟩
    Path.MarksFilters d.reference ∧
      Evaluator.check ⟨true, 1, .none⟩ d (.array []) = Evaluator.checkNothing ⟨true, 1, .none⟩ d := by
  have parsed : Path.parse? "$[?@.a]" =
      some ⟨[.child [.filter (.exists .current [.child [.name "a"]])]]⟩ := rfl
  have result := check_of_no_match (d := ⟨"$[?@.a]", "none(ref, '$ > 0')", .none⟩) parsed
  exact ⟨.inl (by decide +kernel), result.2 _ _ (Path.query_empty _ _)⟩

/-- A filter behind a blank is not found by its mark, and a quoted name may contain the mark without
any filter. So the first of these checks is not judged, and the second is. -/
theorem check_of_unmarked_filter :
    (Path.parse? "$[ ?@.a]").map Path.hasFilter = some true ∧
      Path.mentionsFilter "$[ ?@.a]" = false ∧
      (Path.parse? "$['[?']").map Path.hasFilter = some false ∧
      Path.mentionsFilter "$['[?']" = true ∧
      (Evaluator.check ⟨true, 1, .none⟩ ⟨"$[ ?@.a]", "none(ref, '$ > 0')", .none⟩
        (.array [])).toOption.map (·.holds) = some false ∧
      (Evaluator.check ⟨true, 1, .none⟩ ⟨"$['[?']", "none(ref, '$ > 0')", .none⟩
        (.array [])).toOption.map (·.holds) = some true := by
  have filter : Path.select (.array []) "$[ ?@.a]" = .ok [] := by
    have compiled : Path.compile "$[ ?@.a]" =
        .ok ⟨[.child [.filter (.exists .current [.child [.name "a"]])]]⟩ := rfl
    rw [Path.select, compiled]
    exact congrArg Except.ok (Path.query_empty _ _)
  have name : Path.select (.array []) "$['[?']" = .ok [] := by
    have compiled : Path.compile "$['[?']" = .ok ⟨[.child [.name "[?"]]⟩ := rfl
    rw [Path.select, compiled]
    exact congrArg Except.ok (Path.query_empty _ _)
  rw [check, check, filter, name]
  decide +kernel

end Evaluator

end QualityGate
