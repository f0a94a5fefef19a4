import Mathlib.Data.List.Forall2
import QualityGate.Proofs.Check.Result
import QualityGate.Proofs.Check.Validation
import QualityGate.Proofs.Quantifier.Reason

/-!
# What the options of a check decide

Options choose the status of a check and what is kept of the elements that it examined, and nothing
else. `check_of_options` says so of one check under two options with valid log paths: it fails alike
under both, or it comes to two results with the same truth and the same reasons, in which every
context is what the log path keeps of the element that was examined (`ReasonPackage.Keeps`).
-/

namespace QualityGate

/-! ## What is kept of an element -/

namespace ReasonPackage

/-- What is kept of an element: nothing without a log path, nothing of a scalar, and otherwise the
first value that the path selects from the element, if it selects any. -/
inductive Keeps : Option String → Json → Option Json → Prop
  | noPath (element : Json) : Keeps none element none
  | scalar (log : Option String) {element : Json} (scalar : element.isContainer = false) :
      Keeps log element none
  | first {path : String} {element : Json} {values : List Json}
      (container : element.isContainer = true)
      (selected : Path.select element path = .ok values) : Keeps (some path) element values.head?

/-- How a package for a whole element is reported: with its reasons, and with what is kept of the
element as its context. -/
structure ReportedAs (log : Option String) (examined reported : ReasonPackage) : Prop where
  reasons : reported.reasons = examined.reasons
  context : ∃ element, examined.context = some element ∧ Keeps log element reported.context

variable {log : Option String}

/-- Whatever is kept of an element, the log path selects it. -/
theorem Keeps.selected {element kept : Json} (keeps : Keeps log element (some kept)) :
    ∃ path ∈ log, ∃ values, Path.select element path = .ok values ∧ kept ∈ values := by
  generalize context : some kept = result at keeps
  cases keeps with
  | noPath => cases context
  | scalar => cases context
  | first container selected =>
      exact ⟨_, rfl, _, selected, List.mem_of_head? context.symm⟩

/-- A package is trimmed to what is kept of its element. -/
theorem exists_reportedAs (compiles : ∀ path ∈ log, Path.Compiles path) {package : ReasonPackage}
    {element : Json} (context : package.context = some element) :
    ∃ reported, package.trim log = .ok reported ∧ package.ReportedAs log reported := by
  unfold trim
  rw [context]
  cases log with
  | none => exact ⟨_, rfl, rfl, element, context, .noPath element⟩
  | some path =>
      dsimp only
      split
      case isTrue container =>
          obtain ⟨values, selected⟩ := (compiles path rfl).exists_select element
          have first : Path.selectFirst element path = .ok values.head? := by
            rw [Path.selectFirst, selected]
          rw [first]
          exact ⟨_, rfl, rfl, element, context, .first container selected⟩
      case isFalse scalar =>
          exact ⟨_, rfl, rfl, element, context, .scalar _ (by simpa using scalar)⟩

theorem exists_reportedAs_all (compiles : ∀ path ∈ log, Path.Compiles path)
    {packages : List ReasonPackage}
    (whole : ∀ p ∈ packages, ∃ element, p.context = some element) :
    ∃ reported, trimAll log packages = .ok reported ∧
      List.Forall₂ (ReportedAs log) packages reported := by
  induction packages with
  | nil => exact ⟨[], rfl, .nil⟩
  | cons package rest ih =>
      obtain ⟨⟨element, context⟩, whole⟩ := List.forall_mem_cons.mp whole
      obtain ⟨first, trims, own⟩ := exists_reportedAs compiles context
      obtain ⟨others, more, each⟩ := ih whole
      refine ⟨first :: others, ?_, .cons own each⟩
      exact bind_eq_ok_iff.mpr ⟨first, trims, bind_eq_ok_iff.mpr ⟨others, more, rfl⟩⟩

/-- Whatever is reported as a context has been selected from the element by the log path. -/
theorem selected_of_reportedAs {examined reported : List ReasonPackage}
    (each : List.Forall₂ (ReportedAs log) examined reported) :
    ∀ q ∈ reported, ∀ kept ∈ q.context, ∃ path ∈ log, ∃ p ∈ examined, ∃ element ∈ p.context,
      ∃ values, Path.select element path = .ok values ∧ kept ∈ values := by
  induction each with
  | nil => exact List.forall_mem_nil _
  | @cons p q examined reported own _ ih =>
      refine List.forall_mem_cons.mpr ⟨fun kept isContext => ?_, fun other member kept is => ?_⟩
      · obtain ⟨element, whole, keeps⟩ := own.context
        rw [Option.mem_def.mp isContext] at keeps
        obtain ⟨path, isLog, values, selected⟩ := keeps.selected
        exact ⟨path, isLog, p, List.mem_cons_self, element, whole, values, selected⟩
      · obtain ⟨path, isLog, package, among, rest⟩ := ih other member kept is
        exact ⟨path, isLog, package, .tail p among, rest⟩

/-- Packages have the same reasons however they are reported. -/
theorem map_reasons_of_reportedAs {examined reported : List ReasonPackage}
    (each : List.Forall₂ (ReportedAs log) examined reported) :
    reported.map (·.reasons) = examined.map (·.reasons) := by
  induction each with
  | nil => rfl
  | cons own _ ih => rw [List.map_cons, List.map_cons, own.reasons, ih]

end ReasonPackage

/-! ## What is examined -/

namespace Evaluator

/-- A package for an element that is examined when values are judged by a condition: the subject of
a plain condition, or an item of the list that a call of a quantifier is about. -/
inductive Examines [Readers] (e : Evaluator) (condition : String) (values : List Json)
    (package : ReasonPackage) : Prop
  | subject (plain : Quantifier.isQuantified condition = false)
      (tells : package.TellsOf e condition (subjectOf values))
  | item {o : QuantifierOutcome} {q : Quantifier} {items : List Json} {itemCondition : String}
      {item : Json} (quantified : Quantifier.isQuantified condition = true)
      (called : .ok o ∈ (e.quantifiedRun values condition).1)
      (call : (e.withDeadline e.timeout).quantify q items itemCondition = .ok o)
      (member : item ∈ items)
      (tells : package.TellsOf (e.withDeadline e.timeout) itemCondition item)

variable {e : Evaluator} {condition reference : String} {values : List Json}

/-- What is examined is there as a whole at first. -/
theorem Examines.exists_context [Readers] {package : ReasonPackage}
    (examined : e.Examines condition values package) :
    ∃ element, package.context = some element := by
  cases examined with
  | subject _ tells => exact ⟨_, tells.context⟩
  | item _ _ _ _ tells => exact ⟨_, tells.context⟩

/-- Options have no part in the judgement of values: only the status that they settle differs. -/
theorem judgeSelected_of_options [Readers] (e : Evaluator) (condition : String)
    (values : List Json) :
    (∃ failure, ∀ o, e.judgeSelected condition values o = .error failure) ∨
      ∃ holds packages, (∀ p ∈ packages, e.Examines condition values p) ∧
        ∀ o, ∃ settled, e.judgeSelected condition values o = .ok ⟨holds, settled, packages⟩ := by
  by_cases quantified : Quantifier.isQuantified condition = true
  · simp only [judgeSelected, if_pos quantified]
    cases judged : e.judgeQuantified values condition with
    | error failure => exact .inl ⟨failure, fun _ => rfl⟩
    | ok o =>
        refine .inr ⟨o.result, o.packages.getD [], fun p member => ?_, fun _ => ⟨_, rfl⟩⟩
        cases reported : o.packages with
        | none =>
            rw [reported] at member
            cases member
        | some packages =>
            rw [reported] at member
            obtain ⟨own, q, items, itemCondition, called, call, reported⟩ :=
              exists_call_of_judgeQuantified judged reported
            obtain ⟨item, among, tells⟩ := tellsOf_of_quantify call reported p member
            exact .item quantified called call among tells
  · simp only [judgeSelected, if_neg quantified]
    cases judged : e.judge (subjectOf values) condition with
    | error failure => exact .inl ⟨failure, fun _ => rfl⟩
    | ok j =>
        refine .inr ⟨j.holds, _, ?_, fun _ => ⟨_, rfl⟩⟩
        exact List.forall_mem_singleton.mpr (.subject (by simpa using quantified) (.judged judged))

/-! ## Checks -/

/-- A check fails alike under all options, or its truth and what it examines are the same under all
of them, and each package is reported as the log path says. -/
theorem check_of_all_options [Readers] (e : Evaluator) (reference condition : String)
    (document : Json) :
    (∃ failure, ∀ o : CheckOptions, (∀ path ∈ o.log, Path.Compiles path) →
        e.check ⟨reference, condition, o⟩ document = .error failure) ∨
      ∃ values holds examined, Path.select document reference = .ok values ∧
        (∀ p ∈ examined, e.Examines condition values p) ∧
        ∀ o : CheckOptions, (∀ path ∈ o.log, Path.Compiles path) → ∃ status reported,
          e.check ⟨reference, condition, o⟩ document =
              .ok ⟨reference, condition, status, holds, reported⟩ ∧
            List.Forall₂ (ReasonPackage.ReportedAs o.log) examined reported := by
  cases selected : Path.select document reference with
  | error failure => exact .inl ⟨failure, fun _ _ => by rw [check, selected]; rfl⟩
  | ok values =>
      by_cases settles : (values = [] ∧ Path.mentionsFilter reference = false) ∨
          ∃ only, values = [only] ∧ only.isHollow = true
      · refine .inr ⟨values, false, [], rfl, List.forall_mem_nil _, fun o _ => ?_⟩
        obtain ⟨status, settled⟩ := Option.isSome_iff_exists.mp
          ((isSome_settledBefore?_iff (d := ⟨reference, condition, o⟩)).mpr settles)
        exact ⟨status, [], check_of_settled selected settled, .nil⟩
      · have unsettled (o : CheckOptions) :
            settledBefore? ⟨reference, condition, o⟩ values = .none :=
          Option.not_isSome_iff_eq_none.mp fun settled =>
            settles (isSome_settledBefore?_iff.mp settled)
        rcases judgeSelected_of_options e condition values with
          ⟨failure, fails⟩ | ⟨holds, packages, examined, judged⟩
        · refine .inl ⟨failure, fun o _ => ?_⟩
          rw [check_of_unsettled selected (unsettled o), fails o]
          rfl
        · refine .inr ⟨values, holds, packages, rfl, examined, fun o compiles => ?_⟩
          obtain ⟨settled, judged⟩ := judged o
          obtain ⟨reported, trims, each⟩ := ReasonPackage.exists_reportedAs_all compiles
            fun p member => (examined p member).exists_context
          refine ⟨settled.getD (o.statusFor holds), reported, ?_, each⟩
          rw [check_of_unsettled selected (unsettled o), judged, ok_bind, trims]
          rfl

/-- **Options choose labels and what is kept of contexts, and nothing else.** Under any two options
with valid log paths a check fails with the same failure, or it comes to results with the same
reference, condition and truth and with the same reasons in the same order. The packages of both are
those for the same elements, which the check examined, and each context is what the log path of the
options keeps of its element, so whatever is reported as a context has been selected by that path. -/
theorem check_of_options [Readers] {o o' : CheckOptions}
    (valid : ∀ path ∈ o.log, Path.Compiles path)
    (valid' : ∀ path ∈ o'.log, Path.Compiles path) (e : Evaluator) (reference condition : String)
    (document : Json) :
    (∃ failure, e.check ⟨reference, condition, o⟩ document = .error failure ∧
        e.check ⟨reference, condition, o'⟩ document = .error failure) ∨
      ∃ r r' values examined, e.check ⟨reference, condition, o⟩ document = .ok r ∧
        e.check ⟨reference, condition, o'⟩ document = .ok r' ∧
        (r.reference = reference ∧ r'.reference = reference) ∧
        (r.condition = condition ∧ r'.condition = condition) ∧ r.holds = r'.holds ∧
        r.packages.map (·.reasons) = r'.packages.map (·.reasons) ∧
        Path.select document reference = .ok values ∧
        (∀ p ∈ examined, e.Examines condition values p) ∧
        List.Forall₂ (ReasonPackage.ReportedAs o.log) examined r.packages ∧
        List.Forall₂ (ReasonPackage.ReportedAs o'.log) examined r'.packages ∧
        ∀ q ∈ r.packages, ∀ kept ∈ q.context, ∃ path ∈ o.log, ∃ p ∈ examined,
          ∃ element ∈ p.context, ∃ kepts, Path.select element path = .ok kepts ∧ kept ∈ kepts := by
  rcases check_of_all_options e reference condition document with
    ⟨failure, fails⟩ | ⟨values, holds, examined, selected, examines, comes⟩
  · exact .inl ⟨failure, fails o valid, fails o' valid'⟩
  · obtain ⟨status, reported, ok, each⟩ := comes o valid
    obtain ⟨status', reported', ok', each'⟩ := comes o' valid'
    have reasons : reported.map (·.reasons) = reported'.map (·.reasons) :=
      (ReasonPackage.map_reasons_of_reportedAs each).trans
        (ReasonPackage.map_reasons_of_reportedAs each').symm
    exact .inr ⟨_, _, values, examined, ok, ok', ⟨rfl, rfl⟩, ⟨rfl, rfl⟩, rfl, reasons, selected,
      examines, each, each', ReasonPackage.selected_of_reportedAs each⟩

/-- A list that is not as asked for is reported by the check that asks for it, with a status of its
own, and by another check under the same condition it is not. -/
theorem check_of_options_whole :
    let o : CheckOptions := { CheckOptions.none with log := some "$", onFalse := some ⟨"LATE"⟩ }
    let document : Json := .array [.number (.integer 7)]
    let e : Evaluator := .ofSettings false 1
    (∀ path ∈ o.log, Path.Compiles path) ∧ (∀ path ∈ CheckOptions.none.log, Path.Compiles path) ∧
    ∃ r r', e.check ⟨"$", "$ == 2", o⟩ document = .ok r ∧
      e.check ⟨"$", "$ == 2", .none⟩ document = .ok r' ∧ r.holds = r'.holds ∧
      r.packages.map (·.reasons) = r'.packages.map (·.reasons) ∧
      r.status = ⟨"LATE"⟩ ∧ r.packages.map (·.context) = [some document] ∧
      r'.status = .red ∧ r'.packages.map (·.context) = [.none] := by
  intro o document e
  have valid : ∀ path ∈ o.log, Path.Compiles path := by
    rintro _ ⟨⟩
    exact ⟨⟨[]⟩, rfl⟩
  have valid' : ∀ path ∈ CheckOptions.none.log, Path.Compiles path := nofun
  have judged : e.judge document "$ == 2" = .ok ⟨false, [document]⟩ :=
    judge_of_root rfl rfl (by decide +kernel)
  have plain : Quantifier.isQuantified "$ == 2" = false := by decide +kernel
  have trims : ReasonPackage.trimAll o.log [⟨.array [document], some document⟩] =
      .ok [⟨.array [document], some document⟩] :=
    trimAll_singleton rfl (Path.selectFirst_root document)
  have ok : e.check ⟨"$", "$ == 2", o⟩ document = _ := check_of_plain rfl plain judged
  rw [trims] at ok
  have ok' : e.check ⟨"$", "$ == 2", .none⟩ document = _ := check_of_plain rfl plain judged
  rcases check_of_options valid valid' e "$" "$ == 2" document with
    ⟨failure, fails, -⟩ | ⟨r, r', _, _, is, is', -, -, holds, reasons, -⟩
  · rw [ok] at fails
    cases fails
  · refine ⟨valid, valid', r, r', is, is', holds, reasons, ?_⟩
    rw [ok] at is
    rw [ok'] at is'
    cases is
    cases is'
    exact ⟨rfl, rfl, rfl, rfl⟩
end Evaluator

end QualityGate
