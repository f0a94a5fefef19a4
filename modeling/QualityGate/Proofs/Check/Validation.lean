import QualityGate.Check.Result
import QualityGate.Proofs.Evaluator
import QualityGate.Proofs.Failure
import QualityGate.Proofs.Path.Selection

/-!
# What a valid check can still fail with

`CheckDefinition.validate` looks at texts alone: the paths of a check, and the expression that its
condition becomes. A check with a plain condition compiles nothing else on any document, so after
it has been validated only two ends other than a result are left (`check_of_validate`): there is no
time for the expression, or the expression faults while it is evaluated.
-/

namespace QualityGate

/-! ## Paths -/

/-- Whether a text is a path. -/
def Path.Compiles (text : String) : Prop := ∃ p, compile text = .ok p

/-- What compiles selects something from every document, though maybe nothing at all. -/
theorem Path.Compiles.exists_select {text : String} (compiles : Compiles text) (document : Json) :
    ∃ values, select document text = .ok values := by
  obtain ⟨p, compiled⟩ := compiles
  exact ⟨p.query document, by rw [select, compiled]⟩

theorem Path.Compiles.exists_selectFirst {text : String} (compiles : Compiles text)
    (document : Json) : ∃ value, selectFirst document text = .ok value := by
  obtain ⟨values, selected⟩ := compiles.exists_select document
  exact ⟨values.head?, by rw [selectFirst, selected]⟩

/-- A subject of any kind has values for what compiles. -/
theorem Condition.exists_valuesOf {path : String} (compiles : Path.Compiles path)
    (subject : Json) : ∃ values, valuesOf subject path = .ok values := by
  unfold valuesOf
  split
  · exact compiles.exists_select subject
  · exact ⟨[subject], rfl⟩

namespace ReasonPackage

variable {log : Option String}

/-- A context is trimmed without failure if what is kept of it is told by a path. -/
theorem exists_trim (compiles : ∀ path ∈ log, Path.Compiles path) (package : ReasonPackage) :
    ∃ trimmed, package.trim log = .ok trimmed := by
  unfold trim
  split
  case h_1 context path _ =>
      split
      · obtain ⟨value, selected⟩ := (compiles path rfl).exists_selectFirst context
        exact ⟨⟨package.reasons, value⟩, bind_eq_ok_iff.mpr ⟨value, selected, rfl⟩⟩
      · exact ⟨_, rfl⟩
  case h_2 => exact ⟨_, rfl⟩

theorem exists_trimAll (compiles : ∀ path ∈ log, Path.Compiles path)
    (packages : List ReasonPackage) : ∃ trimmed, trimAll log packages = .ok trimmed := by
  induction packages with
  | nil => exact ⟨[], rfl⟩
  | cons package rest ih =>
      obtain ⟨first, trims⟩ := exists_trim compiles package
      obtain ⟨others, more⟩ := ih
      exact ⟨first :: others,
        bind_eq_ok_iff.mpr ⟨first, trims, bind_eq_ok_iff.mpr ⟨others, more, rfl⟩⟩⟩

end ReasonPackage

/-! ## What validation finds -/

/-- A text passes the check of its syntax exactly when it is an expression. -/
theorem Evaluator.checkSyntax_eq_ok_iff {expression : String} :
    checkSyntax expression = .ok () ↔ ∃ t, Expression.parse? expression = some t := by
  unfold checkSyntax
  cases Expression.parse? expression <;> simp

/-- A condition is valid exactly when it has one token, whose path compiles, and becomes an
expression. -/
theorem Condition.validate_eq_ok_iff {condition : String} :
    validate condition = .ok () ↔ ∃ prepared t, prepare condition = .ok prepared ∧
      Path.Compiles prepared.reference.path ∧
      Expression.parse? prepared.expression = some t := by
  constructor
  · intro valid
    obtain ⟨prepared, prepares, valid⟩ := bind_eq_ok_iff.mp valid
    obtain ⟨p, compiled, syntactic⟩ := bind_eq_ok_iff.mp valid
    obtain ⟨t, parsed⟩ := Evaluator.checkSyntax_eq_ok_iff.mp syntactic
    exact ⟨prepared, t, prepares, ⟨p, compiled⟩, parsed⟩
  · rintro ⟨prepared, t, prepares, ⟨p, compiled⟩, parsed⟩
    refine bind_eq_ok_iff.mpr ⟨prepared, prepares, bind_eq_ok_iff.mpr ⟨p, compiled, ?_⟩⟩
    exact Evaluator.checkSyntax_eq_ok_iff.mpr ⟨t, parsed⟩

/-- A check is valid exactly when its paths compile, and what is checked of its condition is. -/
theorem CheckDefinition.validate_eq_ok_iff {d : CheckDefinition} :
    d.validate = .ok () ↔ Path.Compiles d.reference ∧
      (∀ path ∈ d.options.log, Path.Compiles path) ∧
      (if Quantifier.isQuantified d.condition then (do
          Evaluator.checkSyntax d.condition
          validateAll (Quantifier.elementConditions d.condition))
        else Condition.validate d.condition) = .ok () := by
  unfold validate
  cases d.options.log with
  | none =>
      constructor
      · intro valid
        obtain ⟨p, compiled, valid⟩ := bind_eq_ok_iff.mp valid
        exact ⟨⟨p, compiled⟩, by simp, valid⟩
      · rintro ⟨⟨p, compiled⟩, -, valid⟩
        exact bind_eq_ok_iff.mpr ⟨p, compiled, valid⟩
  | some log =>
      constructor
      · intro valid
        obtain ⟨p, compiled, valid⟩ := bind_eq_ok_iff.mp valid
        obtain ⟨q, compiled', valid⟩ := bind_eq_ok_iff.mp valid
        exact ⟨⟨p, compiled⟩, by simpa using ⟨q, compiled'⟩, valid⟩
      · rintro ⟨⟨p, compiled⟩, kept, valid⟩
        obtain ⟨q, compiled'⟩ := kept log rfl
        exact bind_eq_ok_iff.mpr ⟨p, compiled, bind_eq_ok_iff.mpr ⟨q, compiled', valid⟩⟩

/-- A check with a plain condition is valid exactly when its paths compile and its condition is
valid. -/
theorem CheckDefinition.validate_plain_eq_ok_iff {d : CheckDefinition}
    (plain : Quantifier.isQuantified d.condition = false) :
    d.validate = .ok () ↔ Path.Compiles d.reference ∧
      (∀ path ∈ d.options.log, Path.Compiles path) ∧ Condition.validate d.condition = .ok () := by
  rw [validate_eq_ok_iff, plain]
  rfl

/-! ## What is left at run time -/

namespace Evaluator

/-- A failure of an expression that was read: there was no time to evaluate it, or for some values
of its token its evaluation came to a fault. -/
inductive FailsAtRun (e : Evaluator) (expression : String) (t : Expression.Term) : Failure → Prop
  | outOfTime (spent : e.budget = 0) : FailsAtRun e expression t (.outOfTime expression e.timeout)
  | faulty (values : List Json) (fault : Expression.Fault)
      (faults : resultOf expression (t.eval (scopeOf (Condition.bindings values) noFunctions)) =
        .error (.faulty expression fault)) : FailsAtRun e expression t (.faulty expression fault)

variable {e : Evaluator} {condition : String} {prepared : Condition.Prepared} {t : Expression.Term}

/-- An expression that was read is evaluated to a result, or fails at its run. -/
theorem compute_of_parse? {expression : String} (parsed : Expression.parse? expression = some t)
    (values : List Json) {failure : Failure}
    (fails : e.compute expression (Condition.bindings values) = .error failure) :
    e.FailsAtRun expression t failure := by
  unfold compute run at fails
  split at fails
  case isTrue spent =>
      cases fails
      exact .outOfTime spent
  case isFalse =>
      simp only [parsed] at fails
      obtain ⟨fault, rfl⟩ := exists_fault_of_resultOf fails
      exact .faulty values fault fails

/-- A condition that was prepared, and whose path and expression were read, judges every subject
or fails at its run. -/
theorem judge_of_prepare (prepares : Condition.prepare condition = .ok prepared)
    (compiles : Path.Compiles prepared.reference.path)
    (parsed : Expression.parse? prepared.expression = some t) (subject : Json) {failure : Failure}
    (fails : e.judge subject condition = .error failure) :
    e.FailsAtRun prepared.expression t failure := by
  obtain ⟨values, selected⟩ := Condition.exists_valuesOf compiles subject
  rw [judge, prepares, ok_bind, selected, ok_bind] at fails
  cases computed : e.compute prepared.expression (Condition.bindings values) with
  | ok result =>
      rw [computed] at fails
      cases fails
  | error other =>
      rw [computed] at fails
      cases fails
      exact compute_of_parse? parsed values computed

/-- **A valid check with a plain condition comes to a result on every document, or fails while its
expression is evaluated.** Its condition has one token, and the expression that it becomes has been
read: no text of the check is ever found to be wrong again. -/
theorem check_of_validate [Readers] {d : CheckDefinition} (valid : d.validate = .ok ())
    (plain : Quantifier.isQuantified d.condition = false) :
    ∃ prepared t, Condition.prepare d.condition = .ok prepared ∧
      Expression.parse? prepared.expression = some t ∧
      ∀ (e : Evaluator) (document : Json), (∃ r, e.check d document = .ok r) ∨
        ∃ failure, e.check d document = .error failure ∧
          e.FailsAtRun prepared.expression t failure := by
  obtain ⟨found, kept, valid⟩ := (CheckDefinition.validate_plain_eq_ok_iff plain).mp valid
  obtain ⟨prepared, t, prepares, compiles, parsed⟩ := Condition.validate_eq_ok_iff.mp valid
  refine ⟨prepared, t, prepares, parsed, fun e document => ?_⟩
  obtain ⟨values, selected⟩ := found.exists_select document
  rw [check, selected, ok_bind]
  cases settledBefore? d values with
  | some status => exact .inl ⟨_, rfl⟩
  | none =>
      simp only [judgeSelected, plain, Bool.false_eq_true, if_false]
      cases judged : e.judge (subjectOf values) d.condition with
      | error failure =>
          exact .inr ⟨failure, rfl, judge_of_prepare prepares compiles parsed _ judged⟩
      | ok j =>
          obtain ⟨trimmed, trims⟩ := ReasonPackage.exists_trimAll kept
            [⟨.array j.values, some (subjectOf values)⟩]
          refine .inl ⟨_, bind_eq_ok_iff.mpr ⟨_, rfl, bind_eq_ok_iff.mpr ⟨trimmed, trims, rfl⟩⟩⟩

/-- A text and a number have no sum, which shows only when the expression is evaluated. -/
theorem check_of_validate_text :
    let d : CheckDefinition :=
      ⟨"$", "$ + 1 > 2 && $ != 'x'", ⟨some "$..id", .none, .none, .none, .none⟩⟩
    d.validate = .ok () ∧ Quantifier.isQuantified d.condition = false ∧
      ∃ prepared t failure, Condition.prepare d.condition = .ok prepared ∧
        Evaluator.check ⟨false, 1, .none⟩ d (.string "x") = .error failure ∧
        Evaluator.FailsAtRun ⟨false, 1, .none⟩ prepared.expression t failure := by
  intro d
  have passes : d.validate.toOption.map id = some () := by decide +kernel
  obtain ⟨_, valid, -⟩ := exists_ok_of_map_toOption passes
  have plain : Quantifier.isQuantified d.condition = false := by decide +kernel
  obtain ⟨prepared, t, prepares, -, ends⟩ := check_of_validate valid plain
  have fails : (Evaluator.check ⟨false, 1, .none⟩ d (.string "x")).toOption.isSome = false := by
    rw [Evaluator.check, Path.select_root]
    decide +kernel
  rcases ends ⟨false, 1, .none⟩ (.string "x") with ⟨r, ok⟩ | ⟨failure, error, atRun⟩
  · rw [ok] at fails
    cases fails
  · exact ⟨valid, plain, prepared, t, failure, prepares, error, atRun⟩

end Evaluator

end QualityGate
