import Mathlib.Data.List.Forall2
import QualityGate.Check.Wire
import QualityGate.Proofs.Check.Options
import QualityGate.Proofs.Json.Carried

/-!
# Results written and read

A result is read back from its JSON form, whatever the order of the members in it
(`CheckResult.WrittenAs`), except that a context that is `null` is read as no context at all:
`CheckResult.ofJson?_of_writtenAs` says what is read of every result. So a result survives exactly
when none of its contexts is `null`, which is when the log path of the check selects no `null` as
the first value of an element that the check examined (`CheckResult.ofJson?_eq_self_iff`).
-/

namespace QualityGate

open Json

/-! ## Members in another order -/

/-- Whether the second value is an object with the members of the first one, in any order. -/
inductive Json.Rearranges : Json → Json → Prop
  | object {members others : List (String × Json)} :
    others.Perm members → Rearranges (.object members) (.object others)

/-- A member is found by its name wherever it stands among others of different names. -/
theorem Json.lookup_perm {members others : List (String × Json)}
    (distinct : (members.map (·.1)).Nodup) (perm : others.Perm members) (name : String) :
    others.lookup name = members.lookup name := by
  induction perm with
  | nil => rfl
  | cons m _ ih =>
      have distinct' := (List.nodup_cons.mp distinct).2
      rw [List.lookup_cons, List.lookup_cons, ih distinct']
  | swap m n rest =>
      obtain ⟨first, v⟩ := m
      obtain ⟨second, w⟩ := n
      have differ : first ≠ second := fun same =>
        (List.nodup_cons.mp distinct).1 (by simp [same])
      by_cases own : name = first
      · have other : (first == second) = false := by simpa using differ
        simp [List.lookup_cons, own, other]
      · have other : (name == first) = false := by simpa using own
        simp [List.lookup_cons, other]
  | trans _ second ih ih' =>
      have middle := (second.map (·.1)).nodup_iff.mpr distinct
      exact (ih middle).trans (ih' distinct)

/-! ## Packages -/

namespace ReasonPackage

variable {p : ReasonPackage} {v : Json}

/-- What is read of a package: all of it, but for a context that is `null`. -/
def remembered (p : ReasonPackage) : ReasonPackage :=
  match p.context with
  | some .null => ⟨p.reasons, none⟩
  | _ => p

theorem remembered_eq_self_iff : p.remembered = p ↔ p.context ≠ some .null := by
  obtain ⟨reasons, context⟩ := p
  unfold remembered
  split
  case h_1 isNull => simp_all
  case h_2 other => simpa using other

/-- The context of a package as it is read. -/
theorem optional?_context (p : ReasonPackage) :
    optional? "context" some (("reasons", p.reasons) :: optionalMember "context" p.context) =
      some p.remembered.context := by
  obtain ⟨reasons, context⟩ := p
  have found : List.lookup "context" (("reasons", reasons) :: optionalMember "context" context) =
      context := by
    rw [List.lookup_cons, show ("context" == "reasons") = false from rfl]
    simp [lookup_optionalMember]
  rw [optional?, found]
  cases context with
  | none => rfl
  | some v => cases v <;> rfl

theorem reasons_remembered (p : ReasonPackage) : p.remembered.reasons = p.reasons := by
  unfold remembered
  split <;> rfl

/-- A package is read from its members in any order. -/
theorem ofJson?_of_rearranges (written : Rearranges p.toJson v) :
    ofJson? v = some p.remembered := by
  cases written with
  | @object _ others perm =>
      have distinct :
          ((("reasons", p.reasons) :: optionalMember "context" p.context).map (·.1)).Nodup := by
        cases p.context <;> simp [optionalMember]
      have reasons : field? "reasons" some others = some p.remembered.reasons := by
        rw [field?, lookup_perm distinct perm, List.lookup_cons_self, reasons_remembered]
        rfl
      have context : optional? "context" some others = some p.remembered.context := by
        rw [← optional?_context, optional?, optional?, lookup_perm distinct perm]
      rw [ofJson?, members?, Option.bind_eq_bind, Option.bind_some, reasons]
      simp only [Option.bind_eq_bind, Option.bind_some, context]
      rfl

/-- Packages are read one by one. -/
theorem listOfJson?_of_rearranges {packages : List ReasonPackage} {items : List Json}
    (written : List.Forall₂ (fun p v => Rearranges p.toJson v) packages items) :
    listOfJson? items = some (packages.map remembered) := by
  induction written with
  | nil => rfl
  | cons own _ ih =>
      rw [listOfJson?, ofJson?_of_rearranges own, ih]
      rfl

end ReasonPackage

/-! ## Results -/

namespace CheckResult

variable {r : CheckResult} {v : Json}

/-- Whether a value is what is written of a result, with the members of the result, and those of
each of its packages, in any order. -/
def WrittenAs (r : CheckResult) (v : Json) : Prop :=
  ∃ items, List.Forall₂ (fun p w => Rearranges (ReasonPackage.toJson p) w) r.packages items ∧
    Rearranges (.object [("reference", .string r.reference), ("condition", .string r.condition),
      ("status", .string r.status.label), ("bool", .bool r.holds),
      ("reasonPackages", .array items)]) v

/-- The JSON form of a result is written of it. -/
theorem writtenAs_toJson (r : CheckResult) : r.WrittenAs r.toJson := by
  refine ⟨r.packages.map ReasonPackage.toJson, ?_, .object (.refl _)⟩
  rw [List.forall₂_map_right_iff, List.forall₂_same]
  exact fun p _ => .object (.refl _)

/-- What is read of a result: all of it, but for contexts that are `null`. -/
def remembered (r : CheckResult) : CheckResult :=
  { r with packages := r.packages.map ReasonPackage.remembered }

theorem remembered_eq_self_iff : r.remembered = r ↔ ∀ p ∈ r.packages, p.context ≠ some .null := by
  obtain ⟨reference, condition, status, holds, packages⟩ := r
  simp only [remembered, mk.injEq, true_and]
  rw [← forall₂_congr fun p _ => ReasonPackage.remembered_eq_self_iff]
  conv_lhs => rw [← List.map_id packages, List.map_map]
  exact List.map_inj_left

/-- A result is read from whatever is written of it. -/
theorem ofJson?_of_writtenAs (written : r.WrittenAs v) : ofJson? v = some r.remembered := by
  obtain ⟨items, packages, @⟨_, others, perm⟩⟩ := written
  have named (name : String) := lookup_perm (by simp) perm name
  have reference : field? "reference" text? others = some r.reference := by
    rw [field?, named]
    rfl
  have condition : field? "condition" text? others = some r.condition := by
    rw [field?, named]
    rfl
  have status : field? "status" text? others = some r.status.label := by
    rw [field?, named]
    rfl
  have holds : field? "bool" bool? others = some r.holds := by
    rw [field?, named]
    rfl
  have listed : field? "reasonPackages" items? others = some items := by
    rw [field?, named]
    rfl
  rw [ofJson?, members?, Option.bind_eq_bind, Option.bind_some, listed]
  simp only [Option.bind_eq_bind, Option.bind_some, reference, condition, status, holds,
    ReasonPackage.listOfJson?_of_rearranges packages]
  rfl

end CheckResult

/-! ## Results of checks -/

namespace ReasonPackage

variable {log : Option String}

/-- There is one thing that is kept of an element. -/
theorem Keeps.unique {element : Json} {kept kept' : Option Json} (keeps : Keeps log element kept)
    (keeps' : Keeps log element kept') : kept = kept' := by
  cases keeps with
  | noPath => cases keeps' <;> rfl
  | scalar _ scalar =>
      cases keeps' with
      | noPath => rfl
      | scalar => rfl
      | first container => simp [container] at scalar
  | first container selected =>
      cases keeps' with
      | scalar _ scalar => simp [container] at scalar
      | first _ selected' =>
          rw [selected] at selected'
          cases selected'
          rfl

/-- A context is reported as `null` if `null` is what is kept of an examined element. -/
theorem context_ne_null_iff_of_reportedAs {examined reported : List ReasonPackage}
    (each : List.Forall₂ (ReportedAs log) examined reported) :
    (∀ q ∈ reported, q.context ≠ some .null) ↔
      ∀ p ∈ examined, ∀ element ∈ p.context, ¬ Keeps log element (some .null) := by
  induction each with
  | nil => simp
  | @cons p q examined reported own _ ih =>
      obtain ⟨element, whole, keeps⟩ := own.context
      have here : q.context ≠ some .null ↔
          ∀ element ∈ p.context, ¬ Keeps log element (some .null) := by
        constructor
        · rintro other element' whole' null
          rw [Option.mem_def, whole] at whole'
          cases whole'
          exact other (keeps.unique null)
        · intro never null
          exact never element whole (null ▸ keeps)
      rw [List.forall_mem_cons, List.forall_mem_cons, ih, here]

end ReasonPackage

namespace CheckResult

/-- **The result of a check survives being written and read exactly if none of its contexts is
`null`.** It is read from whatever is written of it, except that a context that is `null` is read as
none. If the log path of the check is one, the check reports such a context when this path selects
`null` as the first value of an element that the check examined. -/
theorem ofJson?_eq_self_iff [Readers] {e : Evaluator} {d : CheckDefinition} {document : Json}
    (checked : e.check d document = .ok r) (written : r.WrittenAs v) :
    ofJson? v = some r.remembered ∧
    (ofJson? v = some r ↔ ∀ p ∈ r.packages, p.context ≠ some .null) ∧
    ((∀ path ∈ d.options.log, Path.Compiles path) → ∃ values examined,
      Path.select document d.reference = .ok values ∧
      (∀ p ∈ examined, e.Examines d.condition values p) ∧
      List.Forall₂ (ReasonPackage.ReportedAs d.options.log) examined r.packages ∧
      (ofJson? v = some r ↔ ∀ p ∈ examined, ∀ element ∈ p.context,
        ¬ ReasonPackage.Keeps d.options.log element (some .null))) := by
  have survives : ofJson? v = some r ↔ ∀ p ∈ r.packages, p.context ≠ some .null := by
    rw [ofJson?_of_writtenAs written, Option.some_inj, remembered_eq_self_iff]
  refine ⟨ofJson?_of_writtenAs written, survives, fun valid => ?_⟩
  rcases Evaluator.check_of_all_options e d.reference d.condition document with
    ⟨failure, fails⟩ | ⟨values, holds, examined, selected, examines, comes⟩
  · cases checked.symm.trans (fails d.options valid)
  · obtain ⟨status, reported, ok, each⟩ := comes d.options valid
    cases checked.symm.trans ok
    refine ⟨values, examined, selected, examines, each, ?_⟩
    exact survives.trans (ReasonPackage.context_ne_null_iff_of_reportedAs each)

/-- What a check on a list of `null` and a number reports with the given log path. -/
theorem check_logged [Readers] {path : String} {kept : Option Json}
    (first : Path.selectFirst (.array [.null, .number (.integer 7)]) path = .ok kept) :
    (Evaluator.ofSettings false 1).check ⟨"$", "$ == 2", { CheckOptions.none with log := path }⟩
        (.array [.null, .number (.integer 7)]) =
      .ok ⟨"$", "$ == 2", .red, false,
        [⟨.array [.array [.null, .number (.integer 7)]], kept⟩]⟩ := by
  have judged : (Evaluator.ofSettings false 1).judge (.array [.null, .number (.integer 7)])
      "$ == 2" = .ok ⟨false, [.array [.null, .number (.integer 7)]]⟩ :=
    Evaluator.judge_of_root rfl rfl (by decide +kernel)
  have plain : Quantifier.isQuantified "$ == 2" = false := by decide +kernel
  rw [Evaluator.check_of_plain rfl plain judged, Evaluator.trimAll_singleton rfl first]
  rfl

/-- A number that is kept of a list survives, beside a `null` that is not kept. -/
theorem ofJson?_eq_self_iff_number :
    let document : Json := .array [.null, .number (.integer 7)]
    let d : CheckDefinition := ⟨"$", "$ == 2", { CheckOptions.none with log := some "$[1]" }⟩
    (∀ path ∈ d.options.log, Path.Compiles path) ∧
    ∃ r, (Evaluator.ofSettings false 1).check d document = .ok r ∧
      r.packages.map (·.context) = [some (.number (.integer 7))] ∧ ofJson? r.toJson = some r ∧
      ∃ examined, List.Forall₂ (ReasonPackage.ReportedAs d.options.log) examined r.packages ∧
        ∀ p ∈ examined, ∀ element ∈ p.context,
          ¬ ReasonPackage.Keeps d.options.log element (some .null) := by
  intro document d
  have valid : ∀ path ∈ d.options.log, Path.Compiles path := by
    rintro _ ⟨⟩
    exact ⟨_, rfl⟩
  have first : Path.selectFirst document "$[1]" = .ok (some (.number (.integer 7))) :=
    Path.selectFirst_index (i := 1) rfl document
  have checked := check_logged first
  obtain ⟨-, survives, traced⟩ := ofJson?_eq_self_iff checked (writtenAs_toJson _)
  obtain ⟨_, examined, -, -, each, iff⟩ := traced valid
  have present : some (Json.number (.integer 7)) ≠ some .null := by simp
  have read := survives.mpr (List.forall_mem_singleton.mpr present)
  exact ⟨valid, _, checked, rfl, read, examined, each, iff.mp read⟩

/-- A `null` that is kept of a list is lost: it is read as if nothing had been kept. -/
theorem ofJson?_toJson_of_null :
    ∃ r, (Evaluator.ofSettings false 1).check
        ⟨"$", "$ == 2", { CheckOptions.none with log := some "$[0]" }⟩
        (.array [.null, .number (.integer 7)]) = .ok r ∧
      r.packages.map (·.context) = [some .null] ∧
      ∃ s, ofJson? r.toJson = some s ∧ s.packages.map (·.context) = [none] ∧
        ofJson? r.toJson ≠ some r := by
  have first : Path.selectFirst (.array [.null, .number (.integer 7)]) "$[0]" =
      .ok (some .null) := Path.selectFirst_index (i := 0) rfl _
  refine ⟨_, check_logged first, rfl, _, rfl, rfl, ?_⟩
  intro same
  cases same

end CheckResult

end QualityGate
