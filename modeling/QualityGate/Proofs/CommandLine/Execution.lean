import QualityGate.CommandLine.Execution
import QualityGate.Proofs.Check.Result
import QualityGate.Proofs.Configuration.Validation
import QualityGate.Proofs.Failure
import QualityGate.Proofs.Gate.Verdict

/-!
# Evaluations on the command line

An evaluation takes seven steps to its report (`Evaluate.Reports`). If one of them fails, nothing is
printed or written. Otherwise both reports go out before anything is made of the verdict, which only
decides whether the command succeeds. `run_evaluate` says all of this.
-/

namespace QualityGate.CommandLine

/-- Whether a command succeeded: it neither failed nor ended the process with a code. -/
structure Outcome.Succeeds (o : Outcome) : Prop where
  exitCode : o.exitCode = none
  problem : o.problem = none

/-! ## Configurations and documents -/

section Loading

variable {files : Files} {path : String} {c : Configuration}

/-- A configuration is loaded if it can be read and parsed, and is valid. -/
theorem loadConfiguration_eq_ok_iff [Readers] :
    loadConfiguration files path = .ok c ↔ ∃ text, files.read? path = some text ∧
      Configuration.parse? text = some c ∧ c.validate = .ok () := by
  constructor
  · intro loaded
    unfold loadConfiguration at loaded
    split at loaded
    case h_1 => cases loaded
    case h_2 text read =>
        split at loaded
        case h_1 => cases loaded
        case h_2 parsed =>
            split at loaded
            case h_1 => cases loaded
            case h_2 valid =>
                cases loaded
                exact ⟨text, read, parsed, Configuration.validate_eq_ok_iff_problem?.mpr valid⟩
  · rintro ⟨text, read, parsed, valid⟩
    have none := Configuration.validate_eq_ok_iff_problem?.mp valid
    simp only [loadConfiguration, read, parsed, none]

end Loading

namespace Evaluate

variable {r : Evaluate} {files : Files} {report : GateReport}

theorem loadDocument_eq_ok_iff {document : Json} :
    r.loadDocument files = .ok document ↔ ∃ text, files.read? r.document = some text ∧
      Json.parse? text = some document := by
  unfold loadDocument
  cases files.read? r.document with
  | none => simp
  | some text => cases parsed : Json.parse? text <;> simp [parsed]

/-! ## Reports -/

/-- The steps of an evaluation to its report. -/
inductive Reports [Readers] (r : Evaluate) (files : Files) (report : GateReport) : Prop
  | intro {text input : String} {c : Configuration} {document : Json}
      (read : files.read? r.config = some text)
      (parsed : Configuration.parse? text = some c)
      (valid : c.validate = .ok ())
      (overridden : (r.override c).validate = .ok ())
      (readDocument : files.read? r.document = some input)
      (parsedDocument : Json.parse? input = some document)
      (evaluated : (r.override c).gate.evaluate document = .ok report)

/-- An evaluation comes to a report exactly by these steps. -/
theorem report_eq_ok_iff [Readers] : r.report files = .ok report ↔ r.Reports files report := by
  constructor
  · intro reported
    obtain ⟨c', configured, reported⟩ := bind_eq_ok_iff.mp reported
    obtain ⟨document, loads, reported⟩ := bind_eq_ok_iff.mp reported
    obtain ⟨c, loaded, configured⟩ := bind_eq_ok_iff.mp configured
    obtain ⟨⟨⟩, overridden, configured⟩ := bind_eq_ok_iff.mp configured
    cases configured
    obtain ⟨text, read, parsed, valid⟩ := loadConfiguration_eq_ok_iff.mp loaded
    obtain ⟨input, readDocument, parsedDocument⟩ := loadDocument_eq_ok_iff.mp loads
    refine .intro read parsed valid overridden readDocument parsedDocument ?_
    split at reported
    case h_1 evaluated =>
        cases reported
        exact evaluated
    case h_2 => cases reported
  · rintro ⟨read, parsed, valid, overridden, readDocument, parsedDocument, evaluated⟩
    have loaded := loadConfiguration_eq_ok_iff.mpr ⟨_, read, parsed, valid⟩
    have loads := loadDocument_eq_ok_iff.mpr ⟨_, readDocument, parsedDocument⟩
    have configured : r.configuration files = .ok _ :=
      bind_eq_ok_iff.mpr ⟨_, loaded, bind_eq_ok_iff.mpr ⟨(), overridden, rfl⟩⟩
    rw [Evaluate.report, configured, ok_bind, loads, ok_bind, evaluated]
    rfl

/-- The verdict of a report is a signal. -/
theorem Reports.exists_signal [Readers] (reports : r.Reports files report) :
    ∃ s : Signal, report.verdict = s.status := by
  obtain ⟨-, -, -, -, -, -, evaluated⟩ := reports
  obtain ⟨-, reported⟩ := Gate.evaluate_eq_ok_iff.mp evaluated
  exact Gate.exists_signal_of_reportOf reported

/-! ## Outcomes -/

/-- A verdict is no problem if it is strictly better than the threshold, or there is none. -/
theorem verdictProblem?_eq_none_iff {s : Signal} :
    r.verdictProblem? s.status = none ↔ ∀ limit ∈ r.failOn, limit.rank < s.rank := by
  unfold verdictProblem?
  have signal : s.status.signal? = some s := Status.signal?_eq_some_iff.mpr rfl
  cases r.failOn with
  | none => simp
  | some limit =>
      have worse : s ≤ limit ↔ ¬ limit.rank < s.rank := Nat.not_lt.symm
      simp [signal, worse]

variable {terminal : Bool}

theorem output_deliver : (r.deliver files terminal report).output =
    Report.console (r.colourful terminal) report := by
  unfold deliver
  split
  · rfl
  · split <;> rfl

theorem errors_deliver : (r.deliver files terminal report).errors = "" := by
  unfold deliver
  split
  · rfl
  · split <;> rfl

theorem written_deliver : (r.deliver files terminal report).written =
    (r.json.toList.filter files.isWritable).map fun path => (path, Report.document report) := by
  unfold deliver
  split
  case h_1 none => rw [none]; rfl
  case h_2 path json =>
      rw [json]
      split
      case isTrue writable => simp [writable]
      case isFalse locked => simp [Outcome.success, locked]

theorem succeeds_deliver_iff : (r.deliver files terminal report).Succeeds ↔
    (∀ path ∈ r.json, files.isWritable path = true) ∧ r.verdictProblem? report.verdict = none := by
  unfold deliver
  split
  case h_1 none =>
      rw [none]
      exact ⟨fun ⟨_, problem⟩ => ⟨nofun, problem⟩, fun ⟨_, problem⟩ => ⟨rfl, problem⟩⟩
  case h_2 path json =>
      have writable : (∀ p ∈ r.json, files.isWritable p = true) ↔ files.isWritable path = true := by
        simp [json]
      rw [writable]
      split
      case isTrue goes =>
          exact ⟨fun ⟨_, problem⟩ => ⟨goes, problem⟩, fun ⟨_, problem⟩ => ⟨rfl, problem⟩⟩
      case isFalse stays =>
          exact iff_of_false (fun ⟨_, problem⟩ => nomatch problem) fun ⟨goes, _⟩ => stays goes

/-! ## Runs -/

theorem run_of_reports [Readers] (reports : r.Reports files report) :
    r.run files terminal = r.deliver files terminal report := by
  rw [run, report_eq_ok_iff.mpr reports]

/-- Without a report there is nothing but a problem. -/
theorem exists_failure_of_not_reports [Readers] (none : ∀ report, ¬ r.Reports files report) :
    ∃ problem, ∀ terminal, r.run files terminal = .failure problem := by
  cases reported : r.report files with
  | ok report => exact (none report (report_eq_ok_iff.mp reported)).elim
  | error problem => exact ⟨problem, fun terminal => by rw [run, reported]⟩

theorem succeeds_run_iff [Readers] (reports : r.Reports files report) {s : Signal}
    (verdict : report.verdict = s.status) :
    (r.run files terminal).Succeeds ↔ (∀ path ∈ r.json, files.isWritable path = true) ∧
      ∀ limit ∈ r.failOn, limit.rank < s.rank := by
  rw [run_of_reports reports, succeeds_deliver_iff, verdict, verdictProblem?_eq_none_iff]

/-- The threshold has no part in the steps to a report. -/
theorem Reports.of_failOn [Readers] (reports : r.Reports files report) (level : Option Signal) :
    { r with failOn := level }.Reports files report := by
  obtain ⟨read, parsed, valid, overridden, readDocument, parsedDocument, evaluated⟩ := reports
  exact ⟨read, parsed, valid, overridden, readDocument, parsedDocument, evaluated⟩

/-- The threshold has no part in what is printed and written. -/
theorem run_of_failOn [Readers] (level : Option Signal) :
    ({ r with failOn := level }.run files terminal).output = (r.run files terminal).output ∧
      ({ r with failOn := level }.run files terminal).written =
        (r.run files terminal).written := by
  by_cases reports : ∃ report, r.Reports files report
  · obtain ⟨report, reports⟩ := reports
    rw [run_of_reports reports, run_of_reports (reports.of_failOn level), output_deliver,
      output_deliver, written_deliver, written_deliver]
    exact ⟨rfl, rfl⟩
  · have none := not_exists.mp reports
    obtain ⟨problem, fails⟩ := exists_failure_of_not_reports none
    obtain ⟨problem', fails'⟩ := exists_failure_of_not_reports (r := { r with failOn := level })
      fun report reports => none report (reports.of_failOn r.failOn)
    rw [fails, fails']
    exact ⟨rfl, rfl⟩

/-- What succeeds under a threshold succeeds under a lower one. -/
theorem succeeds_run_of_le [Readers] {lenient strict : Signal} (below : lenient ≤ strict)
    (succeeds : ({ r with failOn := some strict }.run files terminal).Succeeds) :
    ({ r with failOn := some lenient }.run files terminal).Succeeds := by
  by_cases reports : ∃ report, { r with failOn := some strict }.Reports files report
  · obtain ⟨report, reports⟩ := reports
    obtain ⟨s, verdict⟩ := reports.exists_signal
    obtain ⟨writable, better⟩ := (succeeds_run_iff reports verdict).mp succeeds
    refine (succeeds_run_iff (reports.of_failOn (some lenient)) verdict).mpr ⟨writable, ?_⟩
    rintro _ ⟨⟩
    exact Nat.lt_of_le_of_lt below (better strict rfl)
  · obtain ⟨problem, fails⟩ := exists_failure_of_not_reports (not_exists.mp reports)
    rw [fails] at succeeds
    cases succeeds.problem

/-- Unless colours are chosen by the output, it does not matter where that goes. -/
theorem run_of_colours [Readers] (chosen : r.colours ≠ .automatic) (other : Bool) :
    r.run files other = r.run files terminal := by
  have same : r.colourful other = r.colourful terminal := by
    unfold colourful
    cases colours : r.colours with
    | always => rfl
    | never => rfl
    | automatic => exact (chosen colours).elim
  simp only [run, deliver, same]

end Evaluate

/-- **An evaluation reports completely or not at all, and succeeds by the verdict.** If a step to
the report fails, so does the command, and it leaves nothing behind. Otherwise it prints the report
and writes it to the file that is asked for, if it can, whatever the verdict and the threshold are.
It succeeds if that file could be written and the verdict is strictly better than the threshold, if
there is one. So what fails under a threshold also fails under a higher one. -/
theorem run_evaluate [Readers] (r : Evaluate) (files : Files) (terminal : Bool) :
    let outcome := (Command.evaluate r).run files terminal
    let under (level : Option Signal) :=
      (Command.evaluate { r with failOn := level }).run files terminal
    ((∀ report, ¬ r.Reports files report) →
      ¬ outcome.Succeeds ∧ outcome.output = "" ∧ outcome.errors = "" ∧ outcome.written = []) ∧
    (∀ report, r.Reports files report →
      outcome.output = Report.console (r.colourful terminal) report ∧ outcome.errors = "" ∧
      outcome.written = (r.json.toList.filter files.isWritable).map
        (fun path => (path, Report.document report)) ∧
      ∃ s : Signal, report.verdict = s.status ∧
        (outcome.Succeeds ↔ (∀ path ∈ r.json, files.isWritable path = true) ∧
          ∀ limit ∈ r.failOn, limit.rank < s.rank)) ∧
    (∀ level, (under level).output = outcome.output ∧ (under level).written = outcome.written) ∧
    (∀ lenient strict : Signal, lenient ≤ strict →
      ¬ (under (some lenient)).Succeeds → ¬ (under (some strict)).Succeeds) ∧
    (r.colours ≠ .automatic → ∀ other, (Command.evaluate r).run files other = outcome) := by
  intro outcome under
  refine ⟨fun none => ?_, fun report reports => ?_, Evaluate.run_of_failOn,
    fun _ _ below fails succeeds => fails (Evaluate.succeeds_run_of_le below succeeds),
    Evaluate.run_of_colours⟩
  · obtain ⟨problem, fails⟩ := Evaluate.exists_failure_of_not_reports none
    have is : outcome = .failure problem := fails terminal
    rw [is]
    exact ⟨fun succeeds => (nomatch succeeds.problem), rfl, rfl, rfl⟩
  · obtain ⟨s, verdict⟩ := reports.exists_signal
    have is : outcome = r.deliver files terminal report := Evaluate.run_of_reports reports
    refine ⟨?_, ?_, ?_, s, verdict, Evaluate.succeeds_run_iff reports verdict⟩
    · rw [is, Evaluate.output_deliver]
    · rw [is, Evaluate.errors_deliver]
    · rw [is, Evaluate.written_deliver]

/-- A check fails, and the verdict is not better than the threshold: both reports go out, and the
command fails. -/
theorem run_evaluate_of_red :
    let r : Evaluate := {
      config := "gate", document := "data", concatenation := none, exhaustive := false,
      timeout := none, policy := none, json := some "report", failOn := some .yellow,
      colours := .never }
    let gate := "timeout = \"1s\"\n[[checks]]\nname = \"one\"\nreference = \"$\"\n" ++
      "condition = \"$ == 1\"\n"
    let files : Files := ⟨fun path => some (if path = "gate" then gate else "7"), fun _ => true⟩
    let result : CheckResult :=
      ⟨"$", "$ == 1", .red, false, [⟨.array [.number (.integer 7)], none⟩]⟩
    let report : GateReport := ⟨[⟨"one", .evaluated result⟩], none, .red⟩
    let outcome := (Command.evaluate r).run files true
    r.Reports files report ∧ outcome.output = Report.console false report ∧
      outcome.written = [("report", Report.document report)] ∧ ¬ outcome.Succeeds := by
  intro r gate files result report outcome
  have reports : r.Reports files report := by
    let c : Configuration :=
      ⟨false, 1_000_000_000, .abort, none, [⟨"one", ⟨"$", "$ == 1", .none⟩⟩]⟩
    have parsed : Configuration.parse? gate = some c := by decide +kernel
    have parsedDocument : Json.parse? "7" = some (.number (.integer 7)) := by rfl
    have valid : c.validate = .ok () := by decide +kernel
    have judged : c.gate.evaluator.judge (.number (.integer 7)) "$ == 1" =
        .ok ⟨false, [.number (.integer 7)]⟩ := Evaluator.judge_of_root rfl rfl (by decide +kernel)
    have plain : Quantifier.isQuantified "$ == 1" = false := by decide +kernel
    have checked : c.gate.evaluator.check ⟨"$", "$ == 1", .none⟩ (.number (.integer 7)) =
        .ok result := Evaluator.check_of_plain rfl plain judged
    have evaluated : (r.override c).gate.evaluate (.number (.integer 7)) = .ok report := by
      change Gate.conclude c.gate [c.gate.evaluator.check _ _] = _
      rw [checked]
      rfl
    exact .intro rfl parsed valid valid rfl parsedDocument evaluated
  obtain ⟨-, reported, -⟩ := run_evaluate r files true
  obtain ⟨output, -, written, s, verdict, succeeds⟩ := reported report reports
  refine ⟨reports, output, written, fun better => ?_⟩
  have better := (succeeds.mp better).2 .yellow rfl
  cases s with
  | red => exact absurd better (by decide)
  | yellow | green => exact absurd verdict (by decide)

end QualityGate.CommandLine
