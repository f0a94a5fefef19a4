import Mathlib.Data.List.Induction
import QualityGate.Proofs.Quantifier.Outcome

/-!
# Where quantifiers stop

A quantifier goes through its list from the start. It ends at the first item that fails, with its
failure, or at the first item that settles the result (`Settles`), whatever stands behind it.
`GoesOn` says that a list of items has neither, and `exists_resumes` says what a quantifier does
behind such items. `quantify_stops` is the main result.
-/

namespace QualityGate.Evaluator

/-! ## Items -/

/-- Whether an item passes: it is present and satisfies the condition, which is not judged for an
absent one. -/
def passes (e : Evaluator) (condition : String) (item : Json) : Except Failure Bool :=
  if item.isTruthy then do return (← e.judge item condition).holds else return false

/-- Whether an item settles the result of a quantifier behind the items before it: the first offence
for `all`, the first match for `any` and `none`, and the second one for `one`. Only `any` stops when
the search is exhaustive. -/
def Settles (e : Evaluator) (condition : String) (q : Quantifier) (before : List Json)
    (item : Json) : Prop :=
  match q with
  | .all => e.exhaustive = false ∧ e.passes condition item = .ok false
  | .any => e.passes condition item = .ok true
  | .one => e.exhaustive = false ∧ e.passes condition item = .ok true ∧
      ∃ other ∈ before, e.passes condition other = .ok true
  | .none => e.exhaustive = false ∧ e.passes condition item = .ok true

/-- Whether a quantifier goes on behind some items: none of them fails, and none settles the result
behind those before it. -/
structure GoesOn (e : Evaluator) (condition : String) (q : Quantifier) (seen : List Json) :
    Prop where
  answered : ∀ item ∈ seen, ∃ b, e.passes condition item = .ok b
  unsettled : ∀ before item after, seen = before ++ item :: after →
    ¬ e.Settles condition q before item

variable {e : Evaluator} {condition : String} {q : Quantifier} {item : Json} {failure : Failure}
  {seen : List Json}

/-- Only a present item can fail, and it fails with its judgement. -/
theorem passes_eq_error_iff : e.passes condition item = .error failure ↔
    item.isTruthy = true ∧ e.judge item condition = .error failure := by
  unfold passes
  split
  case isTrue present => exact bind_pure_eq_error_iff.trans (and_iff_right present).symm
  case isFalse absent => exact iff_of_false nofun fun both => absent both.1

/-- Before the deadline, the test of `all` and `one` says whether an item passes. -/
theorem passes_eq (time : e.timeLeft ≠ some 0) :
    e.passes condition item = do return (← e.judgeOrRefuse condition item).1 := by
  have early : e.ensureTimeLeft condition = .ok () := if_neg time
  rw [passes, judgeOrRefuse, judgeItem, early]
  cases item.isTruthy with
  | false => rfl
  | true => cases e.judge item condition <;> rfl

theorem judgeOrRefuse_of_passes (time : e.timeLeft ≠ some 0) {b : Bool}
    (passes : e.passes condition item = .ok b) :
    ∃ package, e.judgeOrRefuse condition item = .ok (b, package) := by
  rw [passes_eq time] at passes
  obtain ⟨⟨b, package⟩, judged, same⟩ := bind_eq_ok_iff.mp passes
  cases same
  exact ⟨package, judged⟩

theorem judgeOrRefuse_of_fails (time : e.timeLeft ≠ some 0)
    (fails : e.passes condition item = .error failure) :
    e.judgeOrRefuse condition item = .error failure := by
  rw [passes_eq time] at fails
  exact bind_pure_eq_error_iff.mp fails

theorem present_of_passes (passes : e.passes condition item = .ok true) :
    item.isTruthy = true := by
  unfold Evaluator.passes at passes
  split at passes
  case isTrue present => exact present
  case isFalse => cases passes

/-- The test of `any` and `none` is the same for the items that are present. -/
theorem judgeItem_eq (present : item.isTruthy = true) :
    e.judgeItem condition item = e.judgeOrRefuse condition item := (if_pos present).symm

/-! ## Lists that a quantifier goes on from -/

theorem goesOn_nil : e.GoesOn condition q [] := ⟨by simp, by simp⟩

theorem goesOn_concat : e.GoesOn condition q (seen ++ [item]) ↔ e.GoesOn condition q seen ∧
    (∃ b, e.passes condition item = .ok b) ∧ ¬ e.Settles condition q seen item := by
  constructor
  · intro goes
    obtain ⟨answered, own⟩ := List.forall_mem_append.mp goes.answered
    refine ⟨⟨answered, fun before other after parts => ?_⟩, own item List.mem_cons_self, ?_⟩
    · exact goes.unsettled before other (after ++ [item]) (by simp [parts])
    · exact goes.unsettled seen item [] rfl
  · rintro ⟨goes, own, unsettled⟩
    have answered : ∀ other ∈ seen ++ [item], ∃ b, e.passes condition other = .ok b :=
      List.forall_mem_append.mpr ⟨goes.answered, List.forall_mem_singleton.mpr own⟩
    refine ⟨answered, fun before other after parts => ?_⟩
    rcases after.eq_nil_or_concat with rfl | ⟨front, last, rfl⟩
    · obtain ⟨rfl, same⟩ := List.append_inj' parts rfl
      cases same
      exact unsettled
    · have parts : seen ++ [item] = (before ++ other :: front) ++ [last] := by simpa using parts
      obtain ⟨rfl, -⟩ := List.append_inj' parts rfl
      exact goes.unsettled before other front rfl

/-- An item among those that a quantifier goes on from has an answer, which settles nothing. -/
theorem GoesOn.exists_unsettled (goes : e.GoesOn condition q seen) (member : item ∈ seen) :
    ∃ before b, e.passes condition item = .ok b ∧ ¬ e.Settles condition q before item := by
  obtain ⟨b, own⟩ := goes.answered item member
  obtain ⟨before, after, parts⟩ := List.append_of_mem member
  exact ⟨before, b, own, goes.unsettled before item after parts⟩

/-- If one answer is all that settles the result of an early stop, the items that a quantifier goes
on from have the other one, unless the search is exhaustive. -/
theorem GoesOn.exhaustive_or_ne {wanted : Bool} (goes : e.GoesOn condition q seen)
    (settles : ∀ before item, e.exhaustive = false ∧ e.passes condition item = .ok wanted →
      e.Settles condition q before item) (member : item ∈ seen) :
    ∃ b, e.passes condition item = .ok b ∧ (e.exhaustive = true ∨ b ≠ wanted) := by
  obtain ⟨before, b, own, unsettled⟩ := goes.exists_unsettled member
  refine ⟨b, own, or_iff_not_imp_left.mpr fun early => ?_⟩
  rintro rfl
  exact unsettled (settles before item ⟨Bool.eq_false_iff.mpr early, own⟩)

/-- Every list is of one of two kinds: a quantifier goes on through all of it, or there is a first
item that settles the result or fails. -/
theorem goesOn_or_exists (e : Evaluator) (condition : String) (q : Quantifier) (items : List Json) :
    e.GoesOn condition q items ∨ ∃ seen item after, items = seen ++ item :: after ∧
      e.GoesOn condition q seen ∧ (e.Settles condition q seen item ∨
        ∃ failure, e.passes condition item = .error failure) := by
  induction items using List.reverseRecOn with
  | nil => exact .inl goesOn_nil
  | append_singleton front last ih =>
      rcases ih with goes | ⟨seen, item, after, rfl, goes, ends⟩
      · by_cases settles : e.Settles condition q front last
        · exact .inr ⟨front, last, [], rfl, goes, .inl settles⟩
        cases own : e.passes condition last with
        | error failure => exact .inr ⟨front, last, [], rfl, goes, .inr ⟨failure, own⟩⟩
        | ok b => exact .inl (goesOn_concat.mpr ⟨goes, ⟨b, own⟩, settles⟩)
      · exact .inr ⟨seen, item, after ++ [last], by simp, goes, ends⟩

/-! ## Searches behind some items -/

section Searches

variable {test : Json → Except Failure (Bool × ReasonPackage)} {exhaustive wanted : Bool}
  {before : List Json}

theorem collect_append (passed : ∀ item ∈ before, ∃ holds package,
      test item = .ok (holds, package) ∧ (exhaustive = true ∨ holds ≠ wanted)) :
    ∃ found, ∀ rest, collect exhaustive wanted test (before ++ rest) = do
      return found ++ (← collect exhaustive wanted test rest) := by
  induction before with
  | nil => exact ⟨[], fun rest => by simp⟩
  | cons item before ih =>
      obtain ⟨⟨holds, package, tested, kind⟩, passed⟩ := List.forall_mem_cons.mp passed
      obtain ⟨found, resumes⟩ := ih passed
      by_cases hit : holds = wanted
      · obtain rfl : exhaustive = true := kind.resolve_right (not_not.mpr hit)
        refine ⟨package :: found, fun rest => ?_⟩
        simp [collect, tested, hit, resumes]
      · refine ⟨found, fun rest => ?_⟩
        simp [collect, tested, hit, resumes]

theorem search_append (passed : ∀ item ∈ before, ∃ package, test item = .ok (false, package)) :
    ∃ found, ∀ rest, search test (before ++ rest) = do
      let (holds, packages) ← search test rest
      return (holds, found ++ packages) := by
  induction before with
  | nil => exact ⟨[], fun rest => by simp⟩
  | cons item before ih =>
      obtain ⟨⟨package, tested⟩, passed⟩ := List.forall_mem_cons.mp passed
      obtain ⟨found, resumes⟩ := ih passed
      refine ⟨package :: found, fun rest => ?_⟩
      simp [search, tested, resumes]

end Searches

/-! ## Quantifiers behind some items -/

/-- What a quantifier does behind items that it goes on from: it comes to an outcome if nothing
follows, and ends at an item that fails or settles the result. -/
structure Resumes (e : Evaluator) (condition : String) (q : Quantifier) (seen : List Json)
    (next : List Json → Except Failure QuantifierOutcome) : Prop where
  resumes : ∀ rest, e.quantify q (seen ++ rest) condition = next rest
  ends : ∃ o, next [] = .ok o
  fails : ∀ item after failure, e.passes condition item = .error failure →
    next (item :: after) = .error failure
  stops : ∀ item, e.Settles condition q seen item → ∃ o, ∀ after, next (item :: after) = .ok o

/-- What `one` makes of the items that pass and those that do not. -/
def ofDivision : List ReasonPackage × List ReasonPackage → QuantifierOutcome
  | ([], invalid) => ⟨false, some invalid⟩
  | ([package], _) => ⟨true, some [package]⟩
  | (packages, _) => ⟨false, some packages⟩

theorem one_eq (items : List Json) : e.one items condition = do
    return ofDivision (← divide e.exhaustive (e.judgeOrRefuse condition) [] [] items) := by
  unfold one
  congr 1
  funext ⟨valid, invalid⟩
  match valid with
  | [] | [_] | _ :: _ :: _ => rfl

section Quantifiers

variable (time : e.timeLeft ≠ some 0)
include time

/-- A present item passes as the test of `any` and `none` says. -/
theorem judgeItem_of_passes (present : item.isTruthy = true) {b : Bool}
    (passes : e.passes condition item = .ok b) :
    ∃ package, e.judgeItem condition item = .ok (b, package) := by
  rw [judgeItem_eq present]
  exact judgeOrRefuse_of_passes time passes

theorem judgeItem_of_fails (fails : e.passes condition item = .error failure) :
    e.judgeItem condition item = .error failure := by
  rw [judgeItem_eq (passes_eq_error_iff.mp fails).1]
  exact judgeOrRefuse_of_fails time fails

theorem exists_resumes_all (goes : e.GoesOn condition .all seen) :
    ∃ next, e.Resumes condition .all seen next := by
  have passed : ∀ item ∈ seen, ∃ holds package,
      e.judgeOrRefuse condition item = .ok (holds, package) ∧
        (e.exhaustive = true ∨ holds ≠ false) := by
    intro item member
    obtain ⟨b, own, kind⟩ := goes.exhaustive_or_ne (fun _ _ => id) member
    obtain ⟨package, judged⟩ := judgeOrRefuse_of_passes time own
    exact ⟨b, package, judged, kind⟩
  obtain ⟨found, resumes⟩ := collect_append passed
  refine ⟨fun rest => do
    return .ofOffences (found ++ (← collect e.exhaustive false (e.judgeOrRefuse condition) rest)),
    fun rest => ?_, ⟨_, rfl⟩, fun item after failure fails => ?_, ?_⟩
  · simp [quantify, all, resumes]
  · have own := judgeOrRefuse_of_fails time fails
    exact bind_pure_eq_error_iff.mpr (bind_eq_error_iff.mpr (.inl own))
  · rintro item ⟨early, offends⟩
    obtain ⟨package, own⟩ := judgeOrRefuse_of_passes time offends
    exact ⟨.ofOffences (found ++ [package]), fun after => by simp [collect, own, early]; rfl⟩

theorem exists_resumes_any (goes : e.GoesOn condition .any seen) :
    ∃ next, e.Resumes condition .any seen next := by
  have passed : ∀ item ∈ seen.filter Json.isTruthy, ∃ package,
      e.judgeItem condition item = .ok (false, package) := by
    intro item member
    obtain ⟨member, present⟩ := List.mem_filter.mp member
    obtain ⟨before, b, own, unsettled⟩ := goes.exists_unsettled member
    obtain ⟨package, judged⟩ := judgeItem_of_passes time present own
    cases b with
    | false => exact ⟨package, judged⟩
    | true => exact (unsettled own).elim
  obtain ⟨found, resumes⟩ := search_append passed
  refine ⟨fun rest => do
    let (holds, packages) ← search (e.judgeItem condition) (rest.filter Json.isTruthy)
    return ⟨holds, some (found ++ packages)⟩,
    fun rest => ?_, ⟨_, rfl⟩, fun item after failure fails => ?_, ?_⟩
  · simp [quantify, any, resumes]
  · have present := (passes_eq_error_iff.mp fails).1
    have own := judgeItem_of_fails time fails
    simp only [List.filter_cons_of_pos present]
    exact bind_eq_error_iff.mpr (.inl (bind_eq_error_iff.mpr (.inl own)))
  · intro item settles
    have present := present_of_passes settles
    obtain ⟨package, own⟩ := judgeItem_of_passes time present settles
    refine ⟨⟨true, some (found ++ [package])⟩, fun after => ?_⟩
    simp only [List.filter_cons_of_pos present, search, own]
    rfl

theorem exists_resumes_none (goes : e.GoesOn condition .none seen) :
    ∃ next, e.Resumes condition .none seen next := by
  have passed : ∀ item ∈ seen.filter Json.isTruthy, ∃ holds package,
      e.judgeItem condition item = .ok (holds, package) ∧
        (e.exhaustive = true ∨ holds ≠ true) := by
    intro item member
    obtain ⟨member, present⟩ := List.mem_filter.mp member
    obtain ⟨b, own, kind⟩ := goes.exhaustive_or_ne (fun _ _ => id) member
    obtain ⟨package, judged⟩ := judgeItem_of_passes time present own
    exact ⟨b, package, judged, kind⟩
  obtain ⟨found, resumes⟩ := collect_append passed
  refine ⟨fun rest => do
    return .ofOffences (found ++ (← collect e.exhaustive true (e.judgeItem condition)
      (rest.filter Json.isTruthy))),
    fun rest => ?_, ⟨_, rfl⟩, fun item after failure fails => ?_, ?_⟩
  · simp [quantify, none, resumes]
  · have present := (passes_eq_error_iff.mp fails).1
    have own := judgeItem_of_fails time fails
    simp only [List.filter_cons_of_pos present]
    exact bind_pure_eq_error_iff.mpr (bind_eq_error_iff.mpr (.inl own))
  · rintro item ⟨early, matched⟩
    have present := present_of_passes matched
    obtain ⟨package, own⟩ := judgeItem_of_passes time present matched
    refine ⟨.ofOffences (found ++ [package]), fun after => ?_⟩
    simp only [List.filter_cons_of_pos present, collect, own, early]
    rfl

/-- Behind items that `one` goes on from, it has found the ones that pass. -/
theorem exists_divide_append (goes : e.GoesOn condition .one seen) :
    ∃ valid invalid, (∀ rest,
        divide e.exhaustive (e.judgeOrRefuse condition) [] [] (seen ++ rest) =
          divide e.exhaustive (e.judgeOrRefuse condition) valid invalid rest) ∧
      (valid ≠ [] ↔ ∃ other ∈ seen, e.passes condition other = .ok true) := by
  induction seen using List.reverseRecOn with
  | nil => exact ⟨[], [], fun rest => rfl, by simp⟩
  | append_singleton front last ih =>
      obtain ⟨goes, ⟨b, own⟩, unsettled⟩ := goesOn_concat.mp goes
      obtain ⟨valid, invalid, resumes, found⟩ := ih goes
      obtain ⟨package, judged⟩ := judgeOrRefuse_of_passes time own
      cases b with
      | false =>
          refine ⟨valid, invalid ++ [package], fun rest => ?_, ?_⟩
          · simp [resumes, divide, judged]
          · simp [found, own]
      | true =>
          have goesOn : (valid.isEmpty || e.exhaustive) = true := by
            rw [Bool.or_eq_true, List.isEmpty_iff]
            refine or_iff_not_imp_left.mpr fun earlier => ?_
            by_contra early
            exact unsettled ⟨Bool.eq_false_iff.mpr early, own, found.mp earlier⟩
          refine ⟨valid ++ [package], invalid, fun rest => ?_, ?_⟩
          · simp [resumes, divide, judged, goesOn]
          · simp [own]

theorem exists_resumes_one (goes : e.GoesOn condition .one seen) :
    ∃ next, e.Resumes condition .one seen next := by
  obtain ⟨valid, invalid, resumes, found⟩ := exists_divide_append time goes
  refine ⟨fun rest => do
    return ofDivision (← divide e.exhaustive (e.judgeOrRefuse condition) valid invalid rest),
    fun rest => ?_, ⟨_, rfl⟩, fun item after failure fails => ?_, ?_⟩
  · rw [quantify, one_eq, resumes]
  · have own := judgeOrRefuse_of_fails time fails
    exact bind_pure_eq_error_iff.mpr (bind_eq_error_iff.mpr (.inl own))
  · rintro item ⟨early, matched, others⟩
    obtain ⟨package, own⟩ := judgeOrRefuse_of_passes time matched
    have earlier := found.mpr others
    refine ⟨ofDivision (valid ++ [package], invalid), fun after => ?_⟩
    simp [divide, own, early, earlier]
    rfl

/-- A quantifier resumes behind items that it goes on from. -/
theorem exists_resumes (goes : e.GoesOn condition q seen) :
    ∃ next, e.Resumes condition q seen next := by
  cases q with
  | all => exact exists_resumes_all time goes
  | any => exact exists_resumes_any time goes
  | one => exact exists_resumes_one time goes
  | none => exact exists_resumes_none time goes

/-- **A quantifier stops at the first item that settles its result and fails at the first item that
fails.** It comes to an outcome if none of the items fails before, and what stands behind an item
that settles the result makes no difference. It fails in no other way than with the judgement of an
item that is present. -/
theorem quantify_stops (q : Quantifier) (condition : String) :
    (∀ seen item, e.GoesOn condition q seen → e.Settles condition q seen item →
      ∃ o, ∀ after, e.quantify q (seen ++ item :: after) condition = .ok o) ∧
    (∀ items, e.GoesOn condition q items → ∃ o, e.quantify q items condition = .ok o) ∧
    ∀ items failure, e.quantify q items condition = .error failure ↔
      ∃ seen item after, items = seen ++ item :: after ∧ e.GoesOn condition q seen ∧
        item.isTruthy = true ∧ e.judge item condition = .error failure := by
  have stops (seen : List Json) (item : Json) (goes : e.GoesOn condition q seen)
      (settles : e.Settles condition q seen item) :
      ∃ o, ∀ after, e.quantify q (seen ++ item :: after) condition = .ok o := by
    obtain ⟨next, resumes⟩ := exists_resumes time goes
    obtain ⟨o, stops⟩ := resumes.stops item settles
    exact ⟨o, fun after => (resumes.resumes _).trans (stops after)⟩
  have ends (items : List Json) (goes : e.GoesOn condition q items) :
      ∃ o, e.quantify q items condition = .ok o := by
    obtain ⟨next, resumes⟩ := exists_resumes time goes
    obtain ⟨o, ends⟩ := resumes.ends
    have whole := resumes.resumes []
    rw [List.append_nil] at whole
    exact ⟨o, whole.trans ends⟩
  have fails (seen : List Json) (item : Json) (after : List Json) (failure : Failure)
      (goes : e.GoesOn condition q seen) (own : e.passes condition item = .error failure) :
      e.quantify q (seen ++ item :: after) condition = .error failure := by
    obtain ⟨next, resumes⟩ := exists_resumes time goes
    exact (resumes.resumes _).trans (resumes.fails item after failure own)
  refine ⟨stops, ends, fun items failure => ⟨fun failed => ?_, ?_⟩⟩
  · rcases goesOn_or_exists e condition q items with goes |
      ⟨seen, item, after, rfl, goes, settles | ⟨other, own⟩⟩
    · obtain ⟨o, ok⟩ := ends items goes
      rw [ok] at failed
      cases failed
    · obtain ⟨o, ok⟩ := stops seen item goes settles
      rw [ok after] at failed
      cases failed
    · rw [fails seen item after other goes own] at failed
      cases failed
      exact ⟨seen, item, after, rfl, goes, passes_eq_error_iff.mp own⟩
  · rintro ⟨seen, item, after, rfl, goes, own⟩
    exact fails seen item after failure goes (passes_eq_error_iff.mpr own)

end Quantifiers

/-- A text cannot be compared with a number. Before the second item that passes this is a failure,
and behind it nobody sees it. -/
theorem quantify_stops_at_second :
    let e : Evaluator := .ofSettings false 1
    let number (n : Int) : Json := .number (.integer n)
    let seen := [number 3, number 0]
    e.timeLeft ≠ some 0 ∧ e.GoesOn "$ > 1" .one seen ∧ e.Settles "$ > 1" .one seen (number 2) ∧
      (∃ o, ∀ after, e.quantify .one (seen ++ number 2 :: after) "$ > 1" = .ok o) ∧
      ∃ failure, e.judge (.string "x") "$ > 1" = .error failure ∧
        e.quantify .one (seen ++ [.string "x", number 2]) "$ > 1" = .error failure := by
  intro e number seen
  have time : e.timeLeft ≠ some 0 := by decide
  have passes (n : Int) (present : (number n).isTruthy = true)
      (holds : (e.compute "value > 1" (Condition.bindings [number n])).toOption.map Json.isTruthy =
        some true) : e.passes "$ > 1" (number n) = .ok true := by
    have judged : e.judge (number n) "$ > 1" = .ok ⟨true, [number n]⟩ :=
      judge_of_scalar rfl rfl holds
    rw [Evaluator.passes, if_pos present, judged]
    rfl
  have three : e.passes "$ > 1" (number 3) = .ok true := passes 3 (by decide) (by decide +kernel)
  have two : e.passes "$ > 1" (number 2) = .ok true := passes 2 (by decide) (by decide +kernel)
  have zero : e.passes "$ > 1" (number 0) = .ok false := rfl
  have goes : e.GoesOn "$ > 1" .one seen := by
    have first : e.GoesOn "$ > 1" .one ([] ++ [number 3]) :=
      goesOn_concat.mpr ⟨goesOn_nil, ⟨true, three⟩, by simp [Settles]⟩
    exact goesOn_concat.mpr ⟨first, ⟨false, zero⟩, by simp [Settles, zero]⟩
  have settles : e.Settles "$ > 1" .one seen (number 2) :=
    ⟨rfl, two, number 3, List.mem_cons_self, three⟩
  obtain ⟨stops, -, fails⟩ := quantify_stops time .one "$ > 1"
  refine ⟨time, goes, settles, stops seen _ goes settles, ?_⟩
  cases judged : e.judge (.string "x") "$ > 1" with
  | error failure =>
      exact ⟨failure, rfl, (fails _ failure).mpr ⟨seen, _, _, rfl, goes, rfl, judged⟩⟩
  | ok j =>
      have none : (e.judge (.string "x") "$ > 1").toOption.isSome = false := by decide +kernel
      rw [judged] at none
      cases none

end QualityGate.Evaluator
