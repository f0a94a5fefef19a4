import Mathlib.Algebra.GroupWithZero.Nat
import Mathlib.Logic.Relation
import QualityGate.Proofs.Gate.Entries
import QualityGate.Proofs.Path.Selection

/-!
# Checks that run at the same time

The checks of a gate do not wait for each other: as many of them run at a time as there are workers,
and they end in any order. Only when all have ended are their entries made and combined. `Step` is
one event of such an evaluation, and `Stage.Sound` is the invariant: what has ended has come to what
the check comes to by itself.

* `leads_to_answer`: whatever has happened, the evaluation can go on to its answer, and no order of
  events leads to another one.
* `answers_in_any_order`: what the answer is, for both policies.
-/

namespace QualityGate.Gate

/-- How far a check is. -/
inductive Progress where
  | waiting
  | running
  | ended (result : Except Failure CheckResult)

/-- A check, and how far it is. -/
structure Task where
  check : NamedCheck
  progress : Progress

/-- Whether a task has a worker. -/
def Task.isRunning (t : Task) : Bool :=
  match t.progress with
  | .running => true
  | _ => false

/-- How many events there are still to come for a task. -/
def Task.remaining (t : Task) : Nat :=
  match t.progress with
  | .waiting => 2
  | .running => 1
  | .ended _ => 0

/-- Tasks have all ended, or one of them runs, or none does and one waits. -/
theorem tasks_cases (tasks : List Task) :
    (∃ results : List (Except Failure CheckResult), tasks.map Task.progress = results.map .ended) ∨
      (∃ before check after, tasks = before ++ ⟨check, .running⟩ :: after) ∨
      (tasks.countP Task.isRunning = 0 ∧
        ∃ before check after, tasks = before ++ ⟨check, .waiting⟩ :: after) := by
  induction tasks with
  | nil => exact .inl ⟨[], rfl⟩
  | cons task tasks ih =>
      obtain ⟨check, progress⟩ := task
      rcases ih with ⟨results, ended⟩ | ⟨before, other, after, rfl⟩ |
        ⟨none, before, other, after, rfl⟩
      · have idle : tasks.countP Task.isRunning = 0 := by
          refine List.countP_eq_zero.mpr fun t member => ?_
          have : t.progress ∈ results.map .ended := ended ▸ List.mem_map_of_mem member
          obtain ⟨result, -, same⟩ := List.mem_map.mp this
          simp [Task.isRunning, ← same]
        cases progress with
        | waiting => exact .inr (.inr ⟨by simp [idle, Task.isRunning], [], check, tasks, rfl⟩)
        | running => exact .inr (.inl ⟨[], check, tasks, rfl⟩)
        | ended result => exact .inl ⟨result :: results, by simp [ended]⟩
      · exact .inr (.inl ⟨⟨check, progress⟩ :: before, other, after, rfl⟩)
      · cases progress with
        | running => exact .inr (.inl ⟨[], check, _, rfl⟩)
        | waiting =>
            exact .inr (.inr ⟨by simpa [Task.isRunning] using none,
              ⟨check, .waiting⟩ :: before, other, after, rfl⟩)
        | ended result =>
            exact .inr (.inr ⟨by simpa [Task.isRunning] using none,
              ⟨check, .ended result⟩ :: before, other, after, rfl⟩)

/-- Where the evaluation of a gate stands. -/
inductive Stage where
  /-- There are checks to run. They stand in the order of their definitions. -/
  | checking (tasks : List Task)
  /-- All entries are made, and the concatenation is evaluated if there is one. -/
  | combining (reports : List CheckReport)
  | answered (answer : Except Failure GateReport)

section Evaluations

variable [Readers]

/-- One event of an evaluation. A check starts when a worker is free, and it ends at any time after
that. Entries are made of checks that have all ended. -/
inductive Step (g : Gate) (document : Json) (workers : Nat) : Stage → Stage → Prop
  | start {before after : List Task} {check : NamedCheck}
      (free : (before ++ after).countP Task.isRunning < workers) :
      Step g document workers (.checking (before ++ ⟨check, .waiting⟩ :: after))
        (.checking (before ++ ⟨check, .running⟩ :: after))
  | finish {before after : List Task} {check : NamedCheck} :
      Step g document workers (.checking (before ++ ⟨check, .running⟩ :: after))
        (.checking
          (before ++ ⟨check, .ended (g.evaluator.check check.definition document)⟩ :: after))
  | giveUp {tasks : List Task} {results : List (Except Failure CheckResult)} {failure : Failure}
      (ended : tasks.map Task.progress = results.map .ended)
      (fails : reportsOf g.policy (g.checks.zip results) = .error failure) :
      Step g document workers (.checking tasks) (.answered (.error failure))
  | enter {tasks : List Task} {results : List (Except Failure CheckResult)}
      {reports : List CheckReport} (ended : tasks.map Task.progress = results.map .ended)
      (made : reportsOf g.policy (g.checks.zip results) = .ok reports) :
      Step g document workers (.checking tasks) (.combining reports)
  | combine {reports : List CheckReport} :
      Step g document workers (.combining reports) (.answered (g.reportOf reports))

/-- Events that lead from one stage to another. -/
abbrev Leads (g : Gate) (document : Json) (workers : Nat) : Stage → Stage → Prop :=
  Relation.ReflTransGen (Step g document workers)

/-- At first, all checks wait. -/
def initial (g : Gate) : Stage := .checking (g.checks.map fun check => ⟨check, .waiting⟩)

/-- Whether some order of events leads to the stage. -/
def Reaches (g : Gate) (document : Json) (workers : Nat) (stage : Stage) : Prop :=
  g.Leads document workers g.initial stage

/-- Whether the evaluation ends with the answer in some order of events. -/
def Answers (g : Gate) (document : Json) (workers : Nat) (answer : Except Failure GateReport) :
    Prop :=
  g.Reaches document workers (.answered answer)

variable {g : Gate} {document : Json} {workers : Nat}

/-! ## The invariant -/

/-- What holds at every stage: the tasks are those of the checks, and what has ended has come to
what its check comes to by itself. -/
def Stage.Sound (g : Gate) (document : Json) : Stage → Prop
  | checking tasks => tasks.map Task.check = g.checks ∧
      ∀ task ∈ tasks, ∀ result, task.progress = .ended result →
        result = g.resultOf document task.check
  | combining reports => reportsOf g.policy (g.ends document) = .ok reports
  | answered answer => answer = g.evaluate document

theorem sound_initial (g : Gate) (document : Json) : g.initial.Sound g document := by
  refine ⟨by simp [Function.comp_def], fun task member result ended => ?_⟩
  obtain ⟨check, -, rfl⟩ := List.mem_map.mp member
  cases ended

/-- The results of tasks that have all ended are those of the checks, in their order. -/
theorem zip_results {tasks : List Task} {results : List (Except Failure CheckResult)}
    (sound : (Stage.checking tasks).Sound g document)
    (ended : tasks.map Task.progress = results.map .ended) :
    g.checks.zip results = g.ends document := by
  obtain ⟨checks, own⟩ := sound
  have each : results = tasks.map fun task => g.resultOf document task.check := by
    clear checks
    induction tasks generalizing results with
    | nil => exact List.map_eq_nil_iff.mp ended.symm
    | cons task tasks ih =>
        obtain ⟨first, others⟩ := List.forall_mem_cons.mp own
        obtain ⟨result, rest, rfl, this, behind⟩ := List.map_eq_cons_iff.mp ended.symm
        rw [List.map_cons, first result this.symm, ih behind.symm others]
  rw [each, ends, ← checks, List.map_map, List.zip_map']
  rfl

/-- A task may change its progress, if only to what its check comes to. -/
theorem sound_checking_change {before after : List Task} {check : NamedCheck}
    {progress progress' : Progress}
    (sound : (Stage.checking (before ++ ⟨check, progress⟩ :: after)).Sound g document)
    (own : ∀ result, progress' = .ended result → result = g.resultOf document check) :
    (Stage.checking (before ++ ⟨check, progress'⟩ :: after)).Sound g document := by
  obtain ⟨checks, each⟩ := sound
  refine ⟨by simpa using checks, fun task member => ?_⟩
  rw [List.mem_append, List.mem_cons] at member
  rcases member with front | rfl | back
  · exact each task (List.mem_append_left _ front)
  · exact own
  · exact each task (List.mem_append_right _ (.tail _ back))

/-- An event keeps the invariant. -/
theorem Step.sound {a b : Stage} (step : g.Step document workers a b) (sound : a.Sound g document) :
    b.Sound g document := by
  cases step with
  | start free => exact sound_checking_change sound fun _ ended => by cases ended
  | finish =>
      refine sound_checking_change sound fun result ended => ?_
      cases ended
      rfl
  | giveUp ended fails =>
      rw [zip_results sound ended] at fails
      rw [Stage.Sound, evaluate_eq_bind, fails]
      rfl
  | enter ended made =>
      rw [zip_results sound ended] at made
      exact made
  | combine =>
      rw [Stage.Sound] at sound
      rw [Stage.Sound, evaluate_eq_bind, sound, ok_bind]

/-- So do all events of an evaluation. -/
theorem Reaches.sound {stage : Stage} (reached : g.Reaches document workers stage) :
    stage.Sound g document := by
  induction reached with
  | refl => exact sound_initial g document
  | tail _ step ih => exact step.sound ih

/-! ## Ends of evaluations -/

/-- How many events there are still to come. -/
def Stage.remaining : Stage → Nat
  | checking tasks => (tasks.map Task.remaining).sum + 2
  | combining _ => 1
  | answered _ => 0

/-- Every event leaves less to come, so no evaluation goes on for ever. -/
theorem Step.remaining_lt {a b : Stage} (step : g.Step document workers a b) :
    b.remaining < a.remaining := by
  cases step <;> simp [Stage.remaining, Task.remaining]

/-- Before its answer, an evaluation with a worker is never stuck. -/
theorem exists_step (g : Gate) (document : Json) (present : 0 < workers) (stage : Stage) :
    (∃ answer, stage = .answered answer) ∨ ∃ next, g.Step document workers stage next := by
  cases stage with
  | answered answer => exact .inl ⟨answer, rfl⟩
  | combining reports => exact .inr ⟨_, .combine⟩
  | checking tasks =>
      refine .inr ?_
      rcases tasks_cases tasks with ⟨results, ended⟩ | ⟨before, check, after, rfl⟩ |
        ⟨idle, before, check, after, rfl⟩
      · cases made : reportsOf g.policy (g.checks.zip results) with
        | error failure => exact ⟨_, .giveUp ended made⟩
        | ok reports => exact ⟨_, .enter ended made⟩
      · exact ⟨_, .finish⟩
      · refine ⟨_, .start ?_⟩
        rw [List.countP_append] at idle ⊢
        rw [List.countP_cons] at idle
        omega

/-- Every stage leads to an answer. -/
theorem exists_answer (g : Gate) (document : Json) (present : 0 < workers) (stage : Stage) :
    ∃ answer, g.Leads document workers stage (.answered answer) := by
  rcases exists_step g document present stage with ⟨answer, rfl⟩ | ⟨next, step⟩
  · exact ⟨answer, .refl⟩
  · have fewer := step.remaining_lt
    obtain ⟨answer, leads⟩ := exists_answer g document present next
    exact ⟨answer, .head step leads⟩
termination_by stage.remaining

/-- There is one answer, and from every stage that is reached it can be reached still. -/
theorem leads_to_answer (present : 0 < workers) {stage : Stage}
    (reached : g.Reaches document workers stage) :
    g.Leads document workers stage (.answered (g.evaluate document)) := by
  obtain ⟨answer, leads⟩ := exists_answer g document present stage
  have same : answer = g.evaluate document :=
    Reaches.sound (Relation.ReflTransGen.trans reached leads)
  exact same ▸ leads

theorem answers_iff (present : 0 < workers) {answer : Except Failure GateReport} :
    g.Answers document workers answer ↔ answer = g.evaluate document := by
  constructor
  · exact Reaches.sound
  · rintro rfl
    exact leads_to_answer present .refl

/-! ## What the answer is -/

/-- A gate that gives up gives up at the first check that fails, in the order of the definitions. -/
theorem reportsOf_ends_of_first {before after : List NamedCheck} {check : NamedCheck}
    {failure : Failure} (abort : g.policy = .abort) (checks : g.checks = before ++ check :: after)
    (earlier : ∀ c ∈ before, ∃ r, g.resultOf document c = .ok r)
    (fails : g.resultOf document check = .error failure) :
    reportsOf g.policy (g.ends document) = .error failure := by
  rw [abort, ends, checks, List.map_append, List.map_cons, fails]
  refine reportsOf_abort_of_first fun p member => ?_
  obtain ⟨c, front, rfl⟩ := List.mem_map.mp member
  exact earlier c front

/-- **In whatever order its checks end, a gate comes to one answer.** A report has one entry for
each check, in the order of the definitions, that tells what the check comes to by itself. A gate
that gives up answers with the failure of the first failing check and evaluates no concatenation;
if it makes a report, then the gate that reports failures makes the same one, and that gate fails
with nothing but its concatenation. -/
theorem answers_in_any_order (g : Gate) (document : Json) {workers : Nat} (present : 0 < workers) :
    (∀ stage, g.Reaches document workers stage →
      g.Leads document workers stage (.answered (g.evaluate document))) ∧
    (∀ answer, g.Answers document workers answer ↔ answer = g.evaluate document) ∧
    (∀ report, g.Answers document workers (.ok report) →
      List.Forall₂ (fun check entry =>
        entry.Tells check (g.evaluator.check check.definition document)) g.checks report.checks) ∧
    (∀ before check after failure, g.policy = .abort → g.checks = before ++ check :: after →
      (∀ c ∈ before, ∃ r, g.evaluator.check c.definition document = .ok r) →
      g.evaluator.check check.definition document = .error failure →
      (∀ answer, g.Answers document workers answer → answer = .error failure) ∧
        ∀ reports, ¬ g.Reaches document workers (.combining reports)) ∧
    (∀ report, { g with policy := .abort }.Answers document workers (.ok report) →
      { g with policy := .report }.Answers document workers (.ok report)) ∧
    (g.policy = .report → g.concatenation = none →
      ∀ failure, ¬ g.Answers document workers (.error failure)) := by
  refine ⟨fun stage reached => leads_to_answer present reached,
    fun answer => answers_iff present, ?_, ?_, ?_, ?_⟩
  · intro report answers
    obtain ⟨-, reported⟩ := evaluate_eq_ok_iff.mp ((answers_iff present).mp answers).symm
    obtain ⟨entries, -⟩ := reportOf_eq_ok_iff.mp reported
    rw [entries]
    exact entries_tell g document
  · intro before check after failure abort checks earlier fails
    have failed := reportsOf_ends_of_first abort checks earlier fails
    constructor
    · intro answer answers
      rw [(answers_iff present).mp answers, evaluate_eq_bind, failed]
      rfl
    · intro reports reached
      have made : reportsOf g.policy (g.ends document) = .ok reports := reached.sound
      rw [failed] at made
      cases made
  · intro report answers
    have made := ((answers_iff present).mp answers).symm
    obtain ⟨-, reported⟩ := evaluate_eq_ok_iff.mp made
    refine (answers_iff present).mpr (Eq.symm (evaluate_eq_ok_iff.mpr ⟨?_, reported⟩))
    intro abort
    cases abort
  · intro policy none failure answers
    have fails := (answers_iff present).mp answers
    have made : reportsOf g.policy (g.ends document) = .ok (g.entries document) := by
      refine reportsOf_eq_ok_iff.mpr ⟨fun abort => ?_, ?_⟩
      · rw [policy] at abort
        cases abort
      · rw [entries, ends, List.map_map]
        rfl
    rw [evaluate_eq_bind, made, ok_bind, reportOf, concatenationOf, none] at fails
    cases fails

end Evaluations

/-- The third check fails as well, and may be the first one to end. -/
theorem answers_in_any_order_two_failures :
    let good : NamedCheck := ⟨"good", ⟨"$", "$ == 1", .none⟩⟩
    let bad : NamedCheck := ⟨"bad", ⟨"$", "", .none⟩⟩
    let worse : NamedCheck := ⟨"worse", ⟨"", "$ == 1", .none⟩⟩
    let g : Gate := ⟨⟨false, 1, none⟩, [good, bad, worse], some "good", .abort⟩
    let document : Json := .number (.integer 1)
    0 < 2 ∧ g.Reaches document 2 (.checking
        [⟨good, .waiting⟩, ⟨bad, .waiting⟩, ⟨worse, .ended (.error (.invalidPath ""))⟩]) ∧
      g.Answers document 2 (.error (.noReference "")) ∧
      ∀ reports, ¬ g.Reaches document 2 (.combining reports) := by
  intro good bad worse g document
  have present : 0 < 2 := by decide
  have passes : (g.evaluator.check good.definition document).toOption.map (·.status) =
      some .green := by
    rw [Evaluator.check, Path.select_root]
    decide +kernel
  have fails : g.evaluator.check bad.definition document = .error (.noReference "") := by
    rw [Evaluator.check, Path.select_root]
    rfl
  have last : g.evaluator.check worse.definition document = .error (.invalidPath "") := rfl
  obtain ⟨r, ok, -⟩ := exists_ok_of_map_toOption passes
  obtain ⟨leads, answers, -, first, -⟩ := answers_in_any_order g document present
  obtain ⟨only, never⟩ := first [good] bad [worse] _ rfl rfl (by simpa using ⟨r, ok⟩) fails
  have one : g.Answers document 2 (g.evaluate document) := leads _ .refl
  refine ⟨present, ?_, only _ one ▸ one, never⟩
  have starts : g.Step document 2 g.initial (.checking
      [⟨good, .waiting⟩, ⟨bad, .waiting⟩, ⟨worse, .running⟩]) :=
    @Step.start _ _ _ _ [⟨good, .waiting⟩, ⟨bad, .waiting⟩] [] worse (by decide)
  have ends : g.Step document 2 (.checking
      [⟨good, .waiting⟩, ⟨bad, .waiting⟩, ⟨worse, .running⟩]) (.checking
      [⟨good, .waiting⟩, ⟨bad, .waiting⟩, ⟨worse, .ended (.error (.invalidPath ""))⟩]) :=
    last ▸ @Step.finish _ _ _ _ [⟨good, .waiting⟩, ⟨bad, .waiting⟩] [] worse
  exact .tail (.single starts) ends

end QualityGate.Gate
