import QualityGate.Proofs.Concatenation.StandIn

/-!
# Which concatenations are accepted

The names in a concatenation and the text around them do not settle by themselves whether it comes
to a status. A call of the signal of a check fails if it is made, and whether it is made depends on
the signals: the right side of a connective can be passed over, and the second evaluation only takes
place if the first one was true. `concatenate_alike_iff` says that this is all there is: for two
registries with the same names a concatenation fails alike unless it is read with a call that is
made for the signals of one of them and not for those of the other.
-/

namespace QualityGate

namespace Failure

/-- The kinds of failures. Of an expression that is none and one that fails the kind is the same. -/
inductive Kind where
  | noReference
  | severalReferences
  | outOfTime
  | expression
  | unknownCheck
  | unsupportedStatus
  | invalidPath
deriving DecidableEq

/-- The kind of a failure. -/
def kind : Failure → Kind
  | noReference _ => .noReference
  | severalReferences _ _ => .severalReferences
  | outOfTime _ _ => .outOfTime
  | unreadable _ | faulty _ _ => .expression
  | unknownCheck _ => .unknownCheck
  | unsupportedStatus _ _ => .unsupportedStatus
  | invalidPath _ => .invalidPath

/-- The kind of the failure that an outcome is, if it is one. -/
def kindOf? {α : Type} : Except Failure α → Option Kind
  | .ok _ => none
  | .error failure => some failure.kind

end Failure

namespace Registry

variable {first second : String} {r r' : CheckResult}

/-- What a registry of two results holds. -/
theorem find?_insert_insert (name : String) :
    ((empty.insert second r').insert first r).find? name =
      if name = first then some r else if name = second then some r' else .none := by
  rw [find?_insert, find?_insert]
  rfl

/-- Both results of such a registry have the signals of their statuses. -/
theorem signal?_of_insert_insert {s s' : Signal} (own : r.status.signal? = some s)
    (own' : r'.status.signal? = some s') (name : String) (result : CheckResult)
    (found : ((empty.insert second r').insert first r).find? name = some result) :
    result.status.signal? = some (if name = first then s else s') := by
  rw [find?_insert_insert] at found
  split at found
  case isTrue same =>
      cases found
      rw [own, if_pos same]
  case isFalse other =>
      split at found
      case isTrue =>
          cases found
          rw [own', if_neg other]
      case isFalse => cases found

end Registry

namespace Evaluator

open Concatenation Failure Registry

variable {e : Evaluator} {text expression : String} {failure : Failure}
  {registry registry' : Registry} {signals signals' : String → Signal}

/-! ## Kinds of failures -/

theorem kind_of_compute {bindings : List (String × Json)} (time : e.budget ≠ 0)
    (fails : e.compute expression bindings = .error failure) : failure.kind = .expression := by
  rw [compute, run_of_time time] at fails
  cases parsed : Expression.parse? expression with
  | none =>
      rw [parsed] at fails
      cases fails
      rfl
  | some t =>
      rw [parsed] at fails
      obtain ⟨fault, rfl⟩ := exists_fault_of_resultOf fails
      rfl

/-- With time left, an expression over signals fails in one way. -/
theorem kind_of_fold (time : e.budget ≠ 0) (fails : e.fold expression = .error failure) :
    failure.kind = .expression := by
  rcases bind_eq_error_iff.mp fails with tolerant | ⟨result, -, strict⟩
  · exact kind_of_compute time tolerant
  · split at strict
    case isTrue => exact kind_of_compute time (bind_pure_eq_error_iff.mp strict)
    case isFalse => cases strict

/-- A concatenation with a name that is not in the registry fails for such a name, where all others
have signals. -/
theorem kindOf?_concatenate_of_unknown {name : String} (member : name ∈ names text)
    (unknown : registry.find? name = .none)
    (known : ∀ name result, registry.find? name = some result →
      result.status.signal? = some (signals name)) :
    kindOf? (e.concatenate text registry) = some .unknownCheck := by
  obtain ⟨failure, first⟩ :=
    exists_failsFirst member (signalOf_eq_unknownCheck_iff.mpr ⟨rfl, unknown⟩)
  rw [concatenate, expand_eq_error_iff.mpr first]
  obtain ⟨_, own, _, -, -, fails⟩ := first
  cases found : registry.find? own with
  | none =>
      rw [signalOf_eq_unknownCheck_iff.mpr ⟨rfl, found⟩] at fails
      cases fails
      rfl
  | some result =>
      rw [signalOf_eq_ok_iff.mpr ⟨result, found, known own result found⟩] at fails
      cases fails

/-- A concatenation whose names have signals comes to a status exactly if what it is read as does.
Otherwise its expression fails. -/
theorem exists_kindOf?_concatenate (time : e.budget ≠ 0)
    (known : ∀ name ∈ names text, signalOf registry name = .ok (signals name)) :
    ∃ comes : Bool,
      kindOf? (e.concatenate text registry) = (if comes then .none else some .expression) ∧
        (∀ f, ReadAs text f → (f.status? signals).isSome = comes) ∧
          (comes = true → ∃ f, ReadAs text f) := by
  have expanded : expand registry text =
      .ok (String.ofList (respell (spellSignal signals) text.toList)) := by
    rw [expand_eq, expandText_of_known known]
    rfl
  rw [concatenate, expanded, ok_bind]
  have reads (f : Reading) (read : ReadAs text f) :
      (e.fold (String.ofList (respell (spellSignal signals) text.toList))).toOption =
        f.status? signals := fold_of_readAs time read
  cases folded : e.fold (String.ofList (respell (spellSignal signals) text.toList)) with
  | ok s =>
      refine ⟨true, rfl, fun f read => ?_, fun _ => exists_readAs time folded⟩
      rw [← reads f read, folded]
      rfl
  | error failure =>
      refine ⟨false, congrArg some (kind_of_fold time folded), fun f read => ?_,
        fun no => absurd no Bool.false_ne_true⟩
      rw [← reads f read, folded]
      rfl

/-- **A concatenation fails alike for two registries with the same names**, or comes to a status for
both, unless it is read with calls that are made for the signals of one and passed over for those of
the other. A name that is in neither makes it fail alike in any case. -/
theorem concatenate_alike_iff
    (same : ∀ name, (registry.find? name).isSome = (registry'.find? name).isSome)
    (known : ∀ name result, registry.find? name = some result →
      result.status.signal? = some (signals name))
    (known' : ∀ name result, registry'.find? name = some result →
      result.status.signal? = some (signals' name))
    (time : e.budget ≠ 0) :
    kindOf? (e.concatenate text registry) = kindOf? (e.concatenate text registry') ↔
      (∃ name ∈ names text, registry.find? name = .none) ∨
        ∀ f, ReadAs text f → (f.status? signals).isSome = (f.status? signals').isSome := by
  by_cases missing : ∃ name ∈ names text, registry.find? name = .none
  · obtain ⟨name, member, unknown⟩ := missing
    have unknown' : registry'.find? name = .none := by
      rw [← Option.not_isSome_iff_eq_none, ← same, unknown]
      exact Bool.false_ne_true
    rw [kindOf?_concatenate_of_unknown member unknown known,
      kindOf?_concatenate_of_unknown member unknown' known']
    exact iff_of_true rfl (.inl ⟨name, member, unknown⟩)
  · have has (name : String) (member : name ∈ names text) : (registry.find? name).isSome = true :=
      Option.isSome_iff_ne_none.mpr fun unknown => missing ⟨name, member, unknown⟩
    have signal (name : String) (member : name ∈ names text) :
        signalOf registry name = .ok (signals name) := by
      obtain ⟨result, found⟩ := Option.isSome_iff_exists.mp (has name member)
      exact signalOf_eq_ok_iff.mpr ⟨result, found, known name result found⟩
    have signal' (name : String) (member : name ∈ names text) :
        signalOf registry' name = .ok (signals' name) := by
      obtain ⟨result, found⟩ := Option.isSome_iff_exists.mp (same name ▸ has name member)
      exact signalOf_eq_ok_iff.mpr ⟨result, found, known' name result found⟩
    obtain ⟨comes, kind, statuses, readable⟩ := exists_kindOf?_concatenate time signal
    obtain ⟨comes', kind', statuses', readable'⟩ := exists_kindOf?_concatenate time signal'
    have kinds : kindOf? (e.concatenate text registry) = kindOf? (e.concatenate text registry') ↔
        comes = comes' := by
      rw [kind, kind']
      cases comes <;> cases comes' <;> decide
    rw [or_iff_right missing, kinds]
    constructor
    · intro alike f read
      rw [statuses f read, statuses' f read, alike]
    · intro alike
      by_contra differ
      -- One of the two comes to a status, so there is a reading that they differ in.
      obtain ⟨f, read⟩ : ∃ f, ReadAs text f := by
        cases comes with
        | true => exact readable rfl
        | false => exact readable' (Bool.of_not_eq_false fun no => differ no.symm)
      exact differ ((statuses f read).symm.trans ((alike f read).trans (statuses' f read)))

/-- A blank in a name does not keep the text from being read with a call. It is made only where the
check of that name is not `GREEN`. -/
theorem concatenate_alike_iff_call :
    let text := "a b || c ()"
    let result (s : Signal) : CheckResult := ⟨"$", "$ == 1", s.status, true, []⟩
    let registry (s : Signal) : Registry :=
      (Registry.empty.insert "c" (result .green)).insert "a b" (result s)
    let e : Evaluator := ⟨false, 1, .none⟩
    (∀ name, ((registry .green).find? name).isSome = ((registry .red).find? name).isSome) ∧
      kindOf? (e.concatenate text (registry .green)) ≠
        kindOf? (e.concatenate text (registry .red)) := by
  intro text result registry e
  have known (s : Signal) (name : String) (r : CheckResult)
      (found : (registry s).find? name = some r) :
      r.status.signal? = some (if name = "a b" then s else .green) :=
    signal?_of_insert_insert (by cases s <;> rfl) rfl name r found
  have same (name : String) :
      ((registry .green).find? name).isSome = ((registry .red).find? name).isSome := by
    rw [find?_insert_insert, find?_insert_insert]
    split <;> rfl
  have inText : names text = ["a b", "c"] := by decide +kernel
  let f : Reading := .or (.check "a b") (.call "c")
  have read : ReadAs text f := by
    let standIn (name : String) : String := if name = "a b" then "a" else name
    have stands : StandsIn (names text) standIn := by
      rw [inText]
      exact ⟨by decide +kernel, by decide +kernel⟩
    have a : Reading.Written String.toList .operand (.check "a") "a".toList :=
      .check (by decide +kernel)
    have c : Reading.Written String.toList .operand (.call "c")
        ("c".toList ++ [' '] ++ '(' :: [] ++ [')']) :=
      .call (by decide +kernel) (by simp [Reading.Blanks, Expression.Lexeme.isBlank])
        (by simp [Reading.Blanks])
    have whole := (a.behind (c := ' ') rfl).conjunction.disjunction.or
      (c.before (c := ' ') rfl).conjunction.disjunction
    refine ⟨inText.symm, standIn, stands, ?_⟩
    refine Eq.subst (motive := Reading.Written String.toList .disjunction _) ?_ whole
    decide +kernel
  refine ⟨same, fun alike => ?_⟩
  rcases (concatenate_alike_iff same (known .green) (known .red) (by decide)).mp alike with
    ⟨name, member, unknown⟩ | statuses
  · have : name = "a b" ∨ name = "c" := by simpa [inText] using member
    rcases this with rfl | rfl <;> simp [registry, find?_insert_insert] at unknown
  · exact absurd (statuses f read) (by decide)

/-- The call of `b` is passed over as long as `a` is `GREEN`, and fails where `a` is `RED`. -/
theorem concatenate_of_passed_call :
    let text := "a || b()"
    let result (s : Signal) : CheckResult := ⟨"$", "$ == 1", s.status, true, []⟩
    let registry (s : Signal) : Registry :=
      (Registry.empty.insert "b" (result .green)).insert "a" (result s)
    let e : Evaluator := ⟨false, 1, .none⟩
    (∀ name, ((registry .green).find? name).isSome = ((registry .red).find? name).isSome) ∧
      (∀ s name r, (registry s).find? name = some r →
        r.status.signal? = some (if name = "a" then s else .green)) ∧
      e.concatenate text (registry .green) = .ok ⟨text, .green⟩ ∧
        kindOf? (e.concatenate text (registry .red)) = some .expression := by
  intro text result registry e
  refine ⟨fun name => ?_, fun s => ?_, ?_, by decide +kernel⟩
  · rw [find?_insert_insert, find?_insert_insert]
    split <;> rfl
  · exact signal?_of_insert_insert (by cases s <;> rfl) rfl
  · have seen : (e.concatenate text (registry .green)).toOption.map
        (fun r => (r.condition, r.status)) = some (text, .green) := by decide +kernel
    obtain ⟨r, comes, parts⟩ := exists_ok_of_map_toOption seen
    have same : r = ⟨text, .green⟩ :=
      congrArg (fun part => ConcatenationResult.mk part.1 part.2) parts
    rw [comes, same]

end Evaluator

end QualityGate
