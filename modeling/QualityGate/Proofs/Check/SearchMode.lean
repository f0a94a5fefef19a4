import QualityGate.Check.Result
import QualityGate.Proofs.Path.Selection
import QualityGate.Proofs.Quantifier.SearchMode

/-!
# The search mode does not change a judgement

The search mode of an evaluator decides how many failing items are reported, not what is found.
`check_searchMode` says so of whole checks: where an exhaustive search comes to a result, the early
stop comes to the same status and the same truth, and reports the first ones of the same packages.
-/

namespace QualityGate

/-- What options make of packages is the same for the start of them. -/
theorem QuantifierOutcome.StartOf.emptiness? {early late : QuantifierOutcome}
    (h : early.StartOf late) (found : Bool) (options : CheckOptions) :
    early.emptiness? found options = late.emptiness? found options := by
  have related := h.packages
  unfold QuantifierOutcome.emptiness?
  generalize early.packages = ps, late.packages = qs at related
  cases related with
  | none => rfl
  | some start => simp only [start.head?]

/-- Where the contexts of packages can be trimmed, so can those of the first ones. -/
theorem ReasonPackage.trimAll_prefix {log : Option String} {early late trimmed : List ReasonPackage}
    (start : early <+: late) (ok : trimAll log late = .ok trimmed) :
    ∃ trimmed', trimAll log early = .ok trimmed' ∧ trimmed' <+: trimmed := by
  induction early generalizing late trimmed with
  | nil => exact ⟨[], rfl, List.nil_prefix⟩
  | cons package rest ih =>
      obtain ⟨behind, rfl⟩ := start
      obtain ⟨first, trims, ok⟩ := bind_eq_ok_iff.mp ok
      obtain ⟨others, more, ok⟩ := bind_eq_ok_iff.mp ok
      cases ok
      obtain ⟨others', more', start⟩ := ih (List.prefix_append rest behind) more
      refine ⟨first :: others', ?_, (List.prefix_cons_inj first).mpr start⟩
      exact bind_eq_ok_iff.mpr ⟨first, trims, bind_eq_ok_iff.mpr ⟨others', more', rfl⟩⟩

namespace Evaluator

variable {e : Evaluator}

/-- Selected values are judged alike in both search modes. -/
theorem judgeSelected_searchMode [Readers] {condition : String} {values : List Json}
    {options : CheckOptions} {late : Finding}
    (ok : { e with exhaustive := true }.judgeSelected condition values options = .ok late) :
    ∃ early, { e with exhaustive := false }.judgeSelected condition values options = .ok early ∧
      early.holds = late.holds ∧ early.settled = late.settled ∧
      early.packages <+: late.packages := by
  unfold judgeSelected at ok ⊢
  split at ok
  case isFalse plain =>
      -- A plain condition calls no quantifier, and nothing else looks at the search mode.
      rw [if_neg plain]
      exact ⟨late, ok, rfl, rfl, List.prefix_refl _⟩
  case isTrue quantified =>
      obtain ⟨outcome, judged, ok⟩ := bind_eq_ok_iff.mp ok
      cases ok
      obtain ⟨stopped, judged', start⟩ := judgeQuantified_startOf judged
      rw [if_pos quantified]
      exact ⟨_, bind_eq_ok_iff.mpr ⟨stopped, judged', rfl⟩, start.result,
        start.emptiness? _ _, start.getD_prefix⟩

/-- **The search mode decides how much is reported, not what is found.** A check that an exhaustive
search brings to a result has the same status and the same truth when the search stops early, and
its packages are the first ones of the exhaustive search. -/
theorem check_searchMode [Readers] {d : CheckDefinition} {document : Json} {late : CheckResult}
    (ok : { e with exhaustive := true }.check d document = .ok late) :
    ∃ early, { e with exhaustive := false }.check d document = .ok early ∧
      early.reference = late.reference ∧ early.condition = late.condition ∧
      early.status = late.status ∧ early.holds = late.holds ∧
      early.packages <+: late.packages := by
  unfold check at ok ⊢
  obtain ⟨values, selected, ok⟩ := bind_eq_ok_iff.mp ok
  rw [selected, ok_bind]
  cases settled : settledBefore? d values with
  | some status =>
      simp only [settled] at ok ⊢
      exact ⟨late, ok, rfl, rfl, rfl, rfl, List.prefix_refl _⟩
  | none =>
      simp only [settled] at ok ⊢
      obtain ⟨finding, judged, ok⟩ := bind_eq_ok_iff.mp ok
      obtain ⟨packages, trims, ok⟩ := bind_eq_ok_iff.mp ok
      cases ok
      obtain ⟨early, judged', holds, settled', start⟩ := judgeSelected_searchMode judged
      obtain ⟨packages', trims', start'⟩ := ReasonPackage.trimAll_prefix start trims
      refine ⟨_, bind_eq_ok_iff.mpr ⟨early, judged', bind_eq_ok_iff.mpr ⟨packages', trims', rfl⟩⟩,
        rfl, rfl, ?_, holds, start'⟩
      rw [holds, settled']

/-- Of a missing item and a failing one behind it, the early stop reports the first. -/
theorem check_searchMode_two_failures :
    let d : CheckDefinition := ⟨"$", "1 > 2 || all(ref[0], '$ > 1')", .none⟩
    let document : Json :=
      .array [.number (.integer 0), .number (.integer 5), .number (.integer 1)]
    ∃ late early : CheckResult,
      Evaluator.check ⟨true, 1, .none⟩ d document = .ok late ∧
      Evaluator.check ⟨false, 1, .none⟩ d document = .ok early ∧
      late.packages.length = 2 ∧ early.packages.length = 1 ∧
      early.status = late.status ∧ early.packages <+: late.packages := by
  intro d document
  have two : (Evaluator.check ⟨true, 1, .none⟩ d document).toOption.map (·.packages.length) =
      some 2 := by
    rw [Evaluator.check, Path.select_root]
    decide +kernel
  have one : (Evaluator.check ⟨false, 1, .none⟩ d document).toOption.map (·.packages.length) =
      some 1 := by
    rw [Evaluator.check, Path.select_root]
    decide +kernel
  obtain ⟨late, ok, two⟩ := exists_ok_of_map_toOption two
  obtain ⟨early, ok', -, -, status, -, start⟩ :=
    check_searchMode (e := ⟨true, 1, .none⟩) ok
  rw [ok'] at one
  exact ⟨late, early, ok, ok', two, Option.some.inj one, status, start⟩

end Evaluator

end QualityGate
