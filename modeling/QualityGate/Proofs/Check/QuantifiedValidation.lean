import QualityGate.Proofs.Check.Validation
import QualityGate.Proofs.Quantifier.ElementCondition
import QualityGate.Proofs.Quantifier.Failure
import QualityGate.Proofs.Quantifier.TermReading

/-!
# What the validation of a quantified check is worth

A quantified check is valid if its paths compile, its condition is an expression, and the element
conditions that are found in its text are valid. Its calls judge items by other texts, those that
their second arguments come to when the expression is evaluated.

Where the conditions that are found are those that are written (`elementConditions_of_regular`), a
valid check fails in two ways only: while an expression is evaluated, or in a call whose element
condition is not written in the check as a literal. Element conditions that are written are never
found to be wrong again, for a call of a quantifier with a valid condition judges every list or
fails at its run (`quantify_arisesAtRun`).
-/

namespace QualityGate

open Expression (Lexeme word sign)

/-- Whether a failure is of an expression that was read: it had no time, or came to a fault. -/
inductive Failure.ArisesAtRun : Failure → Prop
  | outOfTime (expression : String) (timeout : Nat) : ArisesAtRun (.outOfTime expression timeout)
  | faulty (expression : String) (fault : Expression.Fault) :
      ArisesAtRun (.faulty expression fault)

/-! ## Validation -/

namespace CheckDefinition

/-- Conditions pass exactly when each of them does. -/
theorem validateAll_eq_ok_iff {conditions : List String} :
    validateAll conditions = .ok () ↔ ∀ s ∈ conditions, Condition.validate s = .ok () := by
  induction conditions with
  | nil => exact iff_of_true rfl (by simp)
  | cons s rest ih =>
      rw [validateAll, bind_eq_ok_iff, List.forall_mem_cons, ← ih]
      exact ⟨fun ⟨_, own, others⟩ => ⟨own, others⟩, fun ⟨own, others⟩ => ⟨(), own, others⟩⟩

/-- A check with a quantified condition is valid exactly when its paths compile, its condition is an
expression, and the element conditions that are found in it are valid. -/
theorem validate_quantified_eq_ok_iff {d : CheckDefinition}
    (quantified : Quantifier.isQuantified d.condition = true) :
    d.validate = .ok () ↔ Path.Compiles d.reference ∧
      (∀ path ∈ d.options.log, Path.Compiles path) ∧
      (∃ t, Expression.parse? d.condition = some t) ∧
      ∀ s ∈ Quantifier.elementConditions d.condition, Condition.validate s = .ok () := by
  rw [validate_eq_ok_iff, if_pos quantified, bind_eq_ok_iff, ← validateAll_eq_ok_iff,
    ← Evaluator.checkSyntax_eq_ok_iff]
  refine and_congr_right fun _ => and_congr_right fun _ => ?_
  exact ⟨fun ⟨_, syntactic, valid⟩ => ⟨syntactic, valid⟩,
    fun ⟨syntactic, valid⟩ => ⟨(), syntactic, valid⟩⟩

end CheckDefinition

/-! ## Calls with a valid condition -/

namespace Evaluator

variable {e : Evaluator} {condition : String} {items : List Json} {failure : Failure}

/-- A valid condition judges every subject, or fails at its run. -/
theorem judge_arisesAtRun (valid : Condition.validate condition = .ok ()) {subject : Json}
    (fails : e.judge subject condition = .error failure) : failure.ArisesAtRun := by
  obtain ⟨prepared, t, prepares, compiles, parsed⟩ := Condition.validate_eq_ok_iff.mp valid
  cases judge_of_prepare prepares compiles parsed subject fails with
  | outOfTime => exact .outOfTime _ _
  | faulty _ fault => exact .faulty _ fault

/-- A call of a quantifier with a valid element condition judges every list, or fails at its run. -/
theorem quantify_arisesAtRun (valid : Condition.validate condition = .ok ()) {q : Quantifier}
    (fails : e.quantify q items condition = .error failure) : failure.ArisesAtRun := by
  rcases quantify_fails fails with rfl | ⟨item, judged⟩
  · exact .outOfTime _ _
  · exact judge_arisesAtRun valid judged

/-! ## Quantified conditions -/

/-- A quantified condition that is an expression fails in a call of a quantifier, or at its run. -/
theorem judgeQuantified_arisesAtRun [Readers] {t : Expression.Term}
    (parsed : Expression.parse? condition = some t)
    (fails : e.judgeQuantified items condition = .error failure) :
    (∃ q items' condition',
        (e.withDeadline e.timeout).quantify q items' condition' = .error failure) ∨
      failure.ArisesAtRun := by
  refine (judgeQuantified_fails fails).imp_right fun fails => ?_
  rcases run_fails fails with rfl | ⟨unread, -⟩ | ⟨fault, rfl⟩
  · exact .outOfTime _ _
  · rw [parsed] at unread
    cases unread
  · exact .faulty _ fault

/-- A valid quantified check fails while an expression is evaluated, or in a call with an element
condition that is not found in its text. -/
theorem check_quantified_fails [Readers] {d : CheckDefinition} {document : Json}
    (valid : d.validate = .ok ()) (quantified : Quantifier.isQuantified d.condition = true)
    (fails : e.check d document = .error failure) :
    failure.ArisesAtRun ∨ ∃ q items s,
      (e.withDeadline e.timeout).quantify q items s = .error failure ∧
        s ∉ Quantifier.elementConditions d.condition := by
  obtain ⟨found, kept, ⟨t, parsed⟩, each⟩ :=
    (CheckDefinition.validate_quantified_eq_ok_iff quantified).mp valid
  obtain ⟨values, selected⟩ := found.exists_select document
  rw [check, selected, ok_bind] at fails
  split at fails
  case h_1 => cases fails
  case h_2 =>
      rw [judgeSelected, if_pos quantified] at fails
      rcases bind_eq_error_iff.mp fails with judged | ⟨finding, -, fails⟩
      · rcases bind_eq_error_iff.mp judged with judged | ⟨_, -, judged⟩
        · rcases judgeQuantified_arisesAtRun parsed judged with ⟨q, items, s, call⟩ | atRun
          · by_cases member : s ∈ Quantifier.elementConditions d.condition
            · exact .inl (quantify_arisesAtRun (each s member) call)
            · exact .inr ⟨q, items, s, call, member⟩
          · exact .inl atRun
        · cases judged
      · obtain ⟨trimmed, trims⟩ := ReasonPackage.exists_trimAll kept finding.packages
        rw [trims] at fails
        cases fails

end Evaluator

namespace Quantifier

/-- **In a regular condition the element conditions that are found are those that are written,
exactly if every literal denotes what is left of it without its backslashes.** These are the
literals that the calls of its term have as second arguments. So a check with such a condition is
valid exactly if, beside its paths, the conditions that are written in it are valid, and then it
fails only while an expression is evaluated, or in a call whose element condition is not written in
it. -/
theorem elementConditions_of_regular [Readers] {condition : String} {t : Expression.Term}
    (parsed : Expression.parse? condition = some t) (regular : Regular condition) :
    (conditionsIn t).Among (writtenConditions condition) ∧
    (elementConditions condition = writtenConditions condition ↔
      ∀ l ∈ literalArguments condition,
        Expression.Literal.text? l.chars = some (String.ofList (bareText l))) ∧
    ((∀ l ∈ literalArguments condition, ∀ quote ∈ l.chars.head?,
        OwnEscapes quote l.chars.tail.dropLast) →
      elementConditions condition = writtenConditions condition) ∧
    (elementConditions condition = writtenConditions condition →
      isQuantified condition = true → ∀ d : CheckDefinition, d.condition = condition →
        (d.validate = .ok () ↔ Path.Compiles d.reference ∧
          (∀ path ∈ d.options.log, Path.Compiles path) ∧
          ∀ s ∈ writtenConditions condition, Condition.validate s = .ok ()) ∧
        (d.validate = .ok () → ∀ (e : Evaluator) (document : Json) (failure : Failure),
          e.check d document = .error failure →
            failure.ArisesAtRun ∨ ∃ q items s,
              (e.withDeadline e.timeout).quantify q items s = .error failure ∧
                s ∉ writtenConditions condition)) := by
  refine ⟨writtenConditions_of_parse? parsed, elementConditions_eq_writtenConditions_iff regular,
    fun own => ?_, ?_⟩
  · refine (elementConditions_eq_writtenConditions_iff regular).mpr fun l member => ?_
    exact regular.text?_of_mem member (own l member)
  · rintro same quantified d rfl
    rw [← same]
    refine ⟨?_, fun valid e document failure fails => ?_⟩
    · rw [CheckDefinition.validate_quantified_eq_ok_iff quantified]
      exact and_congr_right fun _ => and_congr_right fun _ => and_iff_right ⟨t, parsed⟩
    · exact Evaluator.check_quantified_fails valid quantified fails

/-- A literal with escaped quotes of its own is found as it is written. -/
theorem elementConditions_of_regular_escapes :
    let condition := "all(ref, '$ != \\'x\\'')"
    let d : CheckDefinition := ⟨"$", condition, .none⟩
    Regular condition ∧ elementConditions condition = ["$ != 'x'"] ∧
      writtenConditions condition = ["$ != 'x'"] ∧ d.validate = .ok () ∧
      ∃ t, Expression.parse? condition = some t ∧ (conditionsIn t).Among ["$ != 'x'"] := by
  intro condition d
  let literal : Lexeme :=
    ⟨.text, ['\'', '$', ' ', '!', '=', ' ', '\\', '\'', 'x', '\\', '\'', '\'']⟩
  let behind : List Lexeme :=
    [] ++ sign "(" :: [⟨.name, "ref".toList⟩] ++ sign "," :: [⟨.blank, [' ']⟩] ++
      literal :: [sign ")"]
  have call : LiteralCall behind literal [sign ")"] :=
    ⟨_, _, _, rfl, by decide, by decide, rfl, ⟨rfl, '\'', .inl rfl, by decide, by decide⟩, .inr rfl⟩
  have place : Stands condition [] .all behind := by
    rw [Stands]
    decide +kernel
  have data : ∀ l ∈ Lexeme.lexemes condition.toList, IsData l → l = literal := by
    rw [place]
    unfold IsData
    decide +kernel
  have regular : Regular condition := by
    refine .of_call place (by decide +kernel) (not_hides_of_letters fun l member own => ?_)
      ⟨by decide, rfl⟩ ⟨by simp [MayFollow], [], _, rfl, List.forall_mem_nil _⟩ (.literal call)
    rw [data l member own]
    simp [literal]
  have compiles : (Expression.parse? condition).isSome = true := by decide +kernel
  obtain ⟨t, parsed⟩ := Option.isSome_iff_exists.mp compiles
  obtain ⟨among, -, found, valid⟩ := elementConditions_of_regular parsed regular
  have written : writtenConditions condition = ["$ != 'x'"] := by decide +kernel
  have same : elementConditions condition = writtenConditions condition := by
    have literals : literalArguments condition = [literal] := by decide +kernel
    refine found fun l member => ?_
    rw [literals, List.mem_singleton] at member
    subst member
    rintro _ ⟨⟩
    simp [literal, OwnEscapes]
  have quantified : isQuantified condition = true := by decide +kernel
  have own : (Condition.validate "$ != 'x'").toOption.map id = some () := by decide +kernel
  rw [written] at among same valid
  refine ⟨regular, same, written, ?_, t, parsed, among⟩
  obtain ⟨_, ok, -⟩ := exists_ok_of_map_toOption own
  have path : Path.Compiles "$" := ⟨⟨[]⟩, rfl⟩
  exact (valid same quantified d rfl).1.mpr ⟨path, by rintro _ ⟨⟩, by simpa using ok⟩

/-- Behind a list, the comma in it is taken for the end of the first argument, and other escapes
than those of quotes lose their meaning. -/
theorem elementConditions_of_list :
    (isQuantified "all([1, 2], '$ > 0')" = true ∧
      (Expression.parse? "all([1, 2], '$ > 0')").isSome = true ∧
      writtenConditions "all([1, 2], '$ > 0')" = ["$ > 0"] ∧
      elementConditions "all([1, 2], '$ > 0')" = []) ∧
    writtenConditions "all(ref, '\\x24 > 1')" = ["$ > 1"] ∧
      elementConditions "all(ref, '\\x24 > 1')" = ["x24 > 1"] := by
  decide +kernel

end Quantifier

end QualityGate
