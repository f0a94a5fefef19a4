import QualityGate.Proofs.Concatenation.Inversion
import QualityGate.Proofs.Concatenation.Line
import QualityGate.Proofs.Configuration.Validation

/-!
# Concatenations of valid configurations

Validation looks at the names in a concatenation and at nothing else. So each of its segments has
the name of a check, but it need not be an expression. `concatenate_eq_ok_iff` says exactly when the
concatenation of a valid configuration comes to a status, and to which: it has to be read in some
way, and the reading must not make a call for the signals at hand.
-/

namespace QualityGate

open Concatenation Concatenation.Reading

namespace Evaluator

variable {e : Evaluator} {c : Configuration} {text : String} {registry : Registry}
  {signals : String → Signal}

/-- **The concatenation of a valid configuration comes to a status** exactly if it is read in some
way and the reading has that status for the signals of the checks. -/
theorem concatenate_eq_ok_iff [Readers] (valid : c.validate = .ok ())
    (has : c.concatenation = some text)
    (known : ∀ check ∈ c.checks, ∃ result, registry.find? check.name = some result ∧
      result.status.signal? = some (signals check.name))
    (time : e.budget ≠ 0) (r : ConcatenationResult) :
    e.concatenate text registry = .ok r ↔ r.condition = text ∧
      ∃ f, Written String.toList .disjunction f text.toList ∧
        f.status? signals = some r.status := by
  obtain ⟨named, inText⟩ := Configuration.names_of_validate valid
  have known (name : String) (member : name ∈ namesOf text.toList) :
      Configuration.isName name = true ∧ signalOf registry name = .ok (signals name) := by
    obtain ⟨check, own, rfl⟩ := inText text has name member
    obtain ⟨result, found, signal⟩ := known check own
    refine ⟨named check own, ?_⟩
    simp only [signalOf, found, signal]
  constructor
  · intro comes
    obtain ⟨expression, expanded, comes⟩ := bind_eq_ok_iff.mp comes
    obtain ⟨status, folded, comes⟩ := bind_eq_ok_iff.mp comes
    cases comes
    obtain ⟨l, chars, names⟩ := exists_line text.toList
    rw [← names] at known
    rw [expand_eq, ← chars, expandText_chars (fun name member => (known name member).1)
      fun name member => (known name member).2] at expanded
    cases expanded
    obtain ⟨t, parsed⟩ := exists_term_of_fold time folded
    obtain ⟨f, written, rfl⟩ :=
      Line.exists_reading (fun name member => (known name member).1) parsed
    have comes := fold_of_means time parsed (means_term f)
    rw [folded] at comes
    rw [chars] at written
    exact ⟨rfl, f, written, comes.symm⟩
  · rintro ⟨condition, f, written, status⟩
    obtain ⟨l, names, chars, -⟩ := Line.exists_of_written written
    have inLine := namesOf_chars (names ▸ named_of_written written)
    rw [chars, names] at inLine
    obtain ⟨expression, expanded, written'⟩ :=
      expand_of_written written fun name member => (known name (inLine ▸ member)).2
    have comes := fold_of_reading time written'
    rw [status] at comes
    rw [concatenate, expanded, ok_bind]
    cases folded : e.fold expression with
    | error failure =>
        rw [folded] at comes
        cases comes
    | ok s =>
        rw [folded] at comes
        cases comes
        cases condition
        rfl

/-- The call of `b` is not made as long as `a` is `GREEN`. -/
theorem concatenate_eq_ok_iff_unmade_call :
    let text := "a || (b ())"
    let check (name : String) : NamedCheck := ⟨name, ⟨"$", "$ == 1", .none⟩⟩
    let c : Configuration := ⟨false, 1, .abort, some text, [check "a", check "b"]⟩
    let result (s : Signal) : CheckResult := ⟨"$", "$ == 1", s.status, true, []⟩
    let registry : Registry := ⟨[("a", result .green), ("b", result .red)]⟩
    c.validate = .ok () ∧
      Evaluator.concatenate ⟨false, 1, .none⟩ text registry = .ok ⟨text, .green⟩ := by
  intro text check c result registry
  have valid : c.validate = .ok () := by decide +kernel
  let signals (name : String) : Signal := if name = "a" then .green else .red
  have known : ∀ check ∈ c.checks, ∃ result, registry.find? check.name = some result ∧
      result.status.signal? = some (signals check.name) := by
    intro check member
    have : check = ⟨"a", ⟨"$", "$ == 1", .none⟩⟩ ∨ check = ⟨"b", ⟨"$", "$ == 1", .none⟩⟩ := by
      simpa [c] using member
    rcases this with rfl | rfl <;> exact ⟨_, rfl, rfl⟩
  have blank : Blanks [' '] := by simp [Blanks, Expression.Lexeme.isBlank]
  have written : Written String.toList .disjunction (.or (.check "a") (.call "b"))
      text.toList := by
    have a : Written String.toList .operand (.check "a") "a".toList := .check (by decide +kernel)
    have b : Written String.toList .operand (.call "b")
        ("b".toList ++ [' '] ++ '(' :: [] ++ [')']) :=
      .call (by decide +kernel) blank (by simp [Blanks])
    have right := b.conjunction.disjunction.group.before (c := ' ') rfl
    have whole := (a.behind (c := ' ') rfl).conjunction.disjunction.or right.conjunction.disjunction
    refine Eq.subst (motive := Written String.toList .disjunction _) ?_ whole
    decide +kernel
  refine ⟨valid, ?_⟩
  exact (concatenate_eq_ok_iff valid rfl known (by decide) ⟨text, .green⟩).mpr
    ⟨rfl, _, written, rfl⟩

/-- Validation passes over a parenthesis that is never closed. -/
theorem concatenate_of_unclosed :
    let text := "(a"
    let check : NamedCheck := ⟨"a", ⟨"$", "$ == 1", .none⟩⟩
    let c : Configuration := ⟨false, 1, .abort, some text, [check]⟩
    let registry : Registry := ⟨[("a", ⟨"$", "$ == 1", .green, true, []⟩)]⟩
    c.validate = .ok () ∧
      (∀ check ∈ c.checks, ∃ result, registry.find? check.name = some result ∧
        result.status.signal? = some .green) ∧
      Evaluator.concatenate ⟨false, 1, .none⟩ text registry =
        .error (.unreadable "(GREEN") := by
  intro text check c registry
  have valid : c.validate = .ok () := by decide +kernel
  refine ⟨valid, ?_, ?_⟩
  · intro check member
    have : check = ⟨"a", ⟨"$", "$ == 1", .none⟩⟩ := by simpa [c] using member
    subst this
    exact ⟨_, rfl, rfl⟩
  · have seen : (expand registry text).toOption.map id = some "(GREEN" := by decide +kernel
    obtain ⟨expression, expanded, same⟩ := exists_ok_of_map_toOption seen
    have expanded : expand registry text = .ok "(GREEN" := expanded.trans (congrArg Except.ok same)
    have noTerm : Expression.parse? "(GREEN" = .none := by
      rw [← Option.not_isSome_iff_eq_none]
      decide +kernel
    rw [concatenate, expanded, ok_bind, fold, compute, run_of_time (by decide), noTerm]
    rfl

end Evaluator

end QualityGate
