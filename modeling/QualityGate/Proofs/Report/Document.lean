import QualityGate.Proofs.Json.Text
import QualityGate.Report.Document

/-!
# What documents tell

A report is known by its document (`Report.eq_of_document`). The document is the indented text of a
JSON value, which determines the value, and the value determines the report: its entries are told
apart by their members, and what is absent has no member.
-/

namespace QualityGate

open Json

/-! ## Reports with finite numbers -/

/-- Whether all numbers in a package are finite. -/
def ReasonPackage.IsFinite (p : ReasonPackage) : Prop :=
  p.reasons.IsFinite ∧ ∀ context ∈ p.context, context.IsFinite

/-- Whether all numbers in what became of a check are finite. -/
def CheckOutcome.IsFinite : CheckOutcome → Prop
  | evaluated result => ∀ p ∈ result.packages, p.IsFinite
  | failed _ => True

/-- Whether all numbers in a report are finite. -/
def GateReport.IsFinite (r : GateReport) : Prop := ∀ c ∈ r.checks, c.outcome.IsFinite

/-! ## Members -/

theorem Json.optionalMember_injective (name : String) :
    Function.Injective (optionalMember name) := by
  intro v w same
  cases v with
  | none =>
      cases w with
      | none => rfl
      | some w => cases same
  | some v =>
      cases w with
      | none => cases same
      | some w =>
          cases same
          rfl

/-- A package is known by its JSON form, in which an absent context is not a `null`. -/
theorem ReasonPackage.toJson_injective : Function.Injective ReasonPackage.toJson := by
  intro p q same
  obtain ⟨reasons, context⟩ := p
  obtain ⟨reasons', context'⟩ := q
  rw [toJson, toJson, object.injEq, List.cons.injEq, Prod.mk.injEq] at same
  obtain ⟨⟨-, rfl⟩, contexts⟩ := same
  obtain rfl : context = context' := optionalMember_injective "context" contexts
  rfl

/-- A result is known by its members. -/
theorem CheckResult.members_injective : Function.Injective CheckResult.members := by
  intro r s same
  obtain ⟨reference, condition, ⟨label⟩, holds, packages⟩ := r
  obtain ⟨reference', condition', ⟨label'⟩, holds', packages'⟩ := s
  simp only [members, List.cons.injEq, Prod.mk.injEq, string.injEq, bool.injEq, array.injEq,
    true_and, and_true] at same
  obtain ⟨rfl, rfl, rfl, rfl, listed⟩ := same
  rw [List.map_injective_iff.mpr ReasonPackage.toJson_injective listed]

theorem CheckResult.members_ne_singleton (r : CheckResult) (m : String × Json) :
    r.members ≠ [m] := fun same => List.cons_ne_nil _ _ (List.cons.inj same).2

namespace Report

/-- An entry is known by its JSON form: a result has no member for a failure. -/
theorem checkJson_injective : Function.Injective checkJson := by
  intro c d same
  obtain ⟨name, outcome⟩ := c
  obtain ⟨name', outcome'⟩ := d
  rw [checkJson, checkJson, object.injEq, List.cons.injEq, Prod.mk.injEq, string.injEq] at same
  obtain ⟨⟨-, rfl⟩, outcomes⟩ := same
  -- Outcomes are not tagged: a result has five members, and a failure has one.
  cases outcome with
  | evaluated result =>
      cases outcome' with
      | evaluated result' => rw [CheckResult.members_injective outcomes]
      | failed failure => exact absurd outcomes (result.members_ne_singleton _)
  | failed failure =>
      cases outcome' with
      | evaluated result => exact absurd outcomes.symm (result.members_ne_singleton _)
      | failed failure' =>
          cases outcomes
          rfl

theorem concatenationJson_injective : Function.Injective concatenationJson := by
  intro c d same
  obtain ⟨condition, ⟨label⟩⟩ := c
  obtain ⟨condition', ⟨label'⟩⟩ := d
  cases same
  rfl

/-- A report is known by its JSON form. -/
theorem reportJson_injective : Function.Injective reportJson := by
  intro r s same
  obtain ⟨checks, concatenation, ⟨label⟩⟩ := r
  obtain ⟨checks', concatenation', ⟨label'⟩⟩ := s
  rw [reportJson, reportJson, object.injEq, List.append_assoc, List.append_assoc,
    List.singleton_append, List.singleton_append, List.cons.injEq, Prod.mk.injEq,
    array.injEq] at same
  obtain ⟨⟨-, entries⟩, behind⟩ := same
  obtain ⟨concatenations, verdicts⟩ := List.append_inj' behind rfl
  obtain rfl : checks = checks' := List.map_injective_iff.mpr checkJson_injective entries
  obtain rfl : concatenation = concatenation' :=
    Option.map_injective concatenationJson_injective
      (optionalMember_injective "concatenation" concatenations)
  cases verdicts
  rfl

/-! ## Documents -/

variable {r r' : GateReport}

theorem isFinite_package {p : ReasonPackage} (finite : p.IsFinite) : p.toJson.IsFinite := by
  obtain ⟨reasons, context⟩ := p
  cases context with
  | none => exact ⟨finite.1, trivial⟩
  | some context => exact ⟨finite.1, finite.2 context rfl, trivial⟩

theorem isFinite_check {c : CheckReport} (finite : c.outcome.IsFinite) :
    (checkJson c).IsFinite := by
  obtain ⟨name, outcome⟩ := c
  cases outcome with
  | failed failure => exact ⟨trivial, trivial, trivial⟩
  | evaluated result =>
      refine ⟨trivial, trivial, trivial, trivial, trivial, ?_, trivial⟩
      refine isFiniteItems_iff.mpr (List.forall_mem_map.mpr fun p member => ?_)
      exact isFinite_package (finite p member)

theorem isFinite_reportJson (finite : r.IsFinite) : (reportJson r).IsFinite := by
  obtain ⟨checks, concatenation, verdict⟩ := r
  have entries : IsFiniteItems (checks.map checkJson) :=
    isFiniteItems_iff.mpr (List.forall_mem_map.mpr fun c member => isFinite_check (finite c member))
  cases concatenation with
  | none => exact ⟨entries, trivial, trivial⟩
  | some result => exact ⟨entries, ⟨trivial, trivial, trivial⟩, trivial, trivial⟩

/-- **A document tells everything about a report.** Reports with one document are the same: they
have the same entries in the same order, with the same names, the same results or failures and the
same packages, where an absent context is not a context that is `null`, and they have the same
concatenation, if any, and the same verdict. The texts in the reports are arbitrary, and so are the
values in packages: their numbers are those of JSON, which are finite. -/
theorem eq_of_document (finite : r.IsFinite) (finite' : r'.IsFinite)
    (same : document r = document r') : r = r' := by
  rw [document, document, String.append_left_inj] at same
  exact reportJson_injective
    (eq_of_pretty (isFinite_reportJson finite) (isFinite_reportJson finite') same)

/-- The first value of a list that starts with `null` is reported as `null` is, and no context is
reported as something else. -/
theorem eq_of_document_null :
    let report (context : Option Json) : GateReport :=
      ⟨[⟨"first", .evaluated ⟨"$", "$ == \"\n\"", .red, false,
          [⟨.array [.null, .number (.integer 7)], context⟩]⟩⟩,
        ⟨"second", .failed "\x7d\n\x7b"⟩], some ⟨"first && second", .red⟩, .red⟩
    let items : Json := .array [.null, .number (.integer 7)]
    (report none).IsFinite ∧ (report (some .null)).IsFinite ∧
    (report items.children.head?).IsFinite ∧
    document (report items.children.head?) = document (report (some .null)) ∧
    report items.children.head? = report (some .null) ∧
    document (report none) ≠ document (report (some .null)) := by
  intro report items
  have finite (context : Option Json) (known : ∀ v ∈ context, v.IsFinite) :
      (report context).IsFinite := by
    refine List.forall_mem_cons.mpr ⟨List.forall_mem_singleton.mpr ⟨?_, known⟩, ?_⟩
    · exact ⟨trivial, trivial, trivial⟩
    · exact List.forall_mem_singleton.mpr trivial
  have absent : (report none).IsFinite := finite none nofun
  have null : (report (some .null)).IsFinite := finite (some .null) fun | _, rfl => trivial
  have first : (report items.children.head?).IsFinite := null
  refine ⟨absent, null, first, rfl, eq_of_document first null rfl, fun same => ?_⟩
  cases eq_of_document absent null same

end Report

end QualityGate
