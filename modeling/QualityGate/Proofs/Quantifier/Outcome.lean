import Mathlib.Data.List.TakeWhile
import QualityGate.Proofs.Quantifier.SearchMode

/-!
# What quantifiers come to

If the condition can be judged for every item that is present, a quantifier says something about the
good items of its list: those that are present and for which the condition holds.
`Quantifier.outcome` states this without a search, with the items that are reported.
`quantify_eq_outcome` says that the searches come to just that.
-/

namespace QualityGate

/-! ## Outcomes without a search -/

/-- Whether an item is good by the judgements of items: present, and the condition holds for it. -/
def Json.isGood (judgement : Json → Judgement) (item : Json) : Bool :=
  item.isTruthy && (judgement item).holds

/-- The package of an item: the values that its judgement looked at, or the item itself if it is
absent. -/
def ReasonPackage.ofItem (judgement : Json → Judgement) (item : Json) : ReasonPackage :=
  if item.isTruthy then ⟨.array (judgement item).values, some item⟩ else ⟨item, some item⟩

namespace Quantifier

/-- The items up to the first good one, or all of them if none is good. -/
def upToFirst (good : Json → Bool) (items : List Json) : List Json :=
  items.takeWhile (fun item => !good item) ++ (items.find? good).toList

/-- The first ones of some items, or all of them if the search is exhaustive. -/
def firstOf (exhaustive : Bool) (n : Nat) (items : List Json) : List Json :=
  if exhaustive then items else items.take n

/-- What a quantifier says about the items of a list, for the judgements of those present. -/
def outcome (q : Quantifier) (exhaustive : Bool) (judgement : Json → Judgement)
    (items : List Json) : QuantifierOutcome :=
  let isGood := Json.isGood judgement
  let good := items.filter isGood
  let report (items : List Json) := some (items.map (ReasonPackage.ofItem judgement))
  match q with
  | .all =>
    if items.all isGood then ⟨true, Option.none⟩
    else ⟨false, report (firstOf exhaustive 1 (items.filter fun item => !isGood item))⟩
  | .any =>
    let present := items.filter Json.isTruthy
    if items.any isGood then ⟨true, report (upToFirst isGood present)⟩
    else ⟨false, report present⟩
  | .one => match good with
    | [] => ⟨false, report items⟩
    | [only] => ⟨true, report [only]⟩
    | several => ⟨false, report (firstOf exhaustive 2 several)⟩
  | .none =>
    if good.isEmpty then ⟨true, Option.none⟩
    else ⟨false, report (firstOf exhaustive 1 good)⟩

theorem map_firstOf {α : Type} (f : Json → α) (exhaustive : Bool) (n : Nat) (items : List Json) :
    (firstOf exhaustive n items).map f =
      if exhaustive then items.map f else (items.map f).take n := by
  cases exhaustive
  · exact List.map_take
  · rfl

/-- If no item is good, all of them come before the first good one. -/
theorem upToFirst_of_none {good : Json → Bool} {items : List Json}
    (none : items.any good = false) : upToFirst good items = items := by
  have bad : ∀ item ∈ items, good item = false := by simpa using none
  have found : items.find? good = .none := List.find?_eq_none.mpr (by simpa using bad)
  have all : items.takeWhile (fun item => !good item) = items :=
    List.takeWhile_eq_self_iff.mpr (by simpa using bad)
  rw [upToFirst, found, all]
  exact List.append_nil items

end Quantifier

namespace Evaluator

open Quantifier (firstOf upToFirst)

/-! ## Searches that never fail -/

section Searches

variable {test : Json → Except Failure (Bool × ReasonPackage)} {items : List Json}
  {good : Json → Bool} {package : Json → ReasonPackage}

theorem collect_of_tested (exhaustive wanted : Bool)
    (tested : ∀ item ∈ items, test item = .ok (good item, package item)) :
    collect exhaustive wanted test items =
      .ok ((firstOf exhaustive 1 (items.filter fun item => good item == wanted)).map package) := by
  have all : collect true wanted test items =
      .ok ((items.filter fun item => good item == wanted).map package) := by
    induction items with
    | nil => rfl
    | cons item rest ih =>
        obtain ⟨own, tested⟩ := List.forall_mem_cons.mp tested
        rw [collect, own, ok_bind, ih tested, List.filter_cons]
        dsimp only
        split <;> rfl
  rw [Quantifier.map_firstOf]
  cases exhaustive with
  | true => exact all
  | false => exact collect_take all

theorem search_of_tested (tested : ∀ item ∈ items, test item = .ok (good item, package item)) :
    search test items = .ok (items.any good, (upToFirst good items).map package) := by
  induction items with
  | nil => rfl
  | cons item rest ih =>
      obtain ⟨own, tested⟩ := List.forall_mem_cons.mp tested
      rw [search, own, ok_bind, ih tested]
      cases holds : good item with
      | false => simp [upToFirst, holds]
      | true =>
          simp [upToFirst, holds]
          rfl

theorem divide_true_of_tested (valid invalid : List ReasonPackage)
    (tested : ∀ item ∈ items, test item = .ok (good item, package item)) :
    divide true test valid invalid items =
      .ok (valid ++ (items.filter good).map package,
        invalid ++ (items.filter fun item => !good item).map package) := by
  induction items generalizing valid invalid with
  | nil =>
      rw [List.filter_nil, List.filter_nil, List.map_nil, List.append_nil, List.append_nil]
      rfl
  | cons item rest ih =>
      obtain ⟨own, tested⟩ := List.forall_mem_cons.mp tested
      rw [divide, own, ok_bind]
      cases holds : good item <;> simp [holds, ih _ _ tested]

/-- All items that are not good are found as long as the search finds at most one good one. -/
theorem divide_of_tested (exhaustive : Bool)
    (tested : ∀ item ∈ items, test item = .ok (good item, package item)) :
    ∃ invalid, divide exhaustive test [] [] items =
        .ok ((firstOf exhaustive 2 (items.filter good)).map package, invalid) ∧
      ((items.filter good).length ≤ 1 →
        invalid = (items.filter fun item => !good item).map package) := by
  have all := divide_true_of_tested [] [] tested
  rw [List.nil_append, List.nil_append] at all
  rw [Quantifier.map_firstOf]
  cases exhaustive with
  | true => exact ⟨_, all, fun _ => rfl⟩
  | false =>
      obtain ⟨invalid, stopped, same⟩ := divide_take all (Nat.zero_le 1)
      exact ⟨invalid, stopped, fun few => same (by rwa [List.length_map])⟩

end Searches

/-! ## Items -/

variable {e : Evaluator} {condition : String} {items : List Json} {j : Json → Judgement}

/-- A value without parts is all that a condition looks at in it. -/
theorem judge_of_scalar {item : Json} {p : Condition.Prepared} {holds : Bool}
    (scalar : item.isContainer = false) (prepared : Condition.prepare condition = .ok p)
    (computed : (e.compute p.expression (Condition.bindings [item])).toOption.map Json.isTruthy =
      some holds) : e.judge item condition = .ok ⟨holds, [item]⟩ := by
  obtain ⟨result, computed, truthy⟩ := exists_ok_of_map_toOption computed
  have values : Condition.valuesOf item p.reference.path = .ok [item] := by
    rw [Condition.valuesOf, scalar]
    rfl
  rw [judge, prepared, ok_bind, values, ok_bind, computed, ok_bind, truthy]
  rfl

theorem judgeItem_of_judged (time : e.timeLeft ≠ some 0) {item : Json}
    (present : item.isTruthy = true) (judged : e.judge item condition = .ok (j item)) :
    e.judgeItem condition item = .ok (item.isGood j, .ofItem j item) := by
  have early : e.ensureTimeLeft condition = .ok () := if_neg time
  rw [judgeItem, early, ok_bind, judged, ok_bind, Json.isGood, ReasonPackage.ofItem, present]
  rfl

theorem judgeOrRefuse_of_judged (time : e.timeLeft ≠ some 0) {item : Json}
    (judged : item.isTruthy = true → e.judge item condition = .ok (j item)) :
    e.judgeOrRefuse condition item = .ok (item.isGood j, .ofItem j item) := by
  have early : e.ensureTimeLeft condition = .ok () := if_neg time
  unfold judgeOrRefuse
  split
  case isTrue present => exact judgeItem_of_judged time present (judged present)
  case isFalse absent =>
      rw [early, ok_bind, Json.isGood, ReasonPackage.ofItem, Bool.eq_false_iff.mpr absent]
      rfl

/-- The good items are present. -/
theorem filter_isGood_present (items : List Json) :
    (items.filter Json.isTruthy).filter (Json.isGood j) = items.filter (Json.isGood j) := by
  rw [List.filter_filter]
  refine List.filter_congr fun item _ => ?_
  rw [Json.isGood]
  cases item.isTruthy <;> simp

theorem any_isGood_present (items : List Json) :
    (items.filter Json.isTruthy).any (Json.isGood j) = items.any (Json.isGood j) := by
  rw [List.any_filter]
  refine congrArg items.any (funext fun item => ?_)
  rw [Json.isGood]
  cases item.isTruthy <;> rfl

/-! ## Quantifiers -/

/-- Offences are reported as far as the search goes, and there are none exactly if it finds none. -/
theorem ofOffences_firstOf (exhaustive : Bool) (items : List Json) (f : Json → ReasonPackage) :
    QuantifierOutcome.ofOffences ((firstOf exhaustive 1 items).map f) =
      if items.isEmpty then ⟨true, .none⟩
      else ⟨false, some ((firstOf exhaustive 1 items).map f)⟩ := by
  cases items with
  | nil => cases exhaustive <;> rfl
  | cons item rest => cases exhaustive <;> rfl

/-- **Quantifiers come to what they say about the good items**, if the condition can be judged for
every item that is present and no deadline has passed. -/
theorem quantify_eq_outcome
    (judged : ∀ item ∈ items, item.isTruthy = true → e.judge item condition = .ok (j item))
    (time : e.timeLeft ≠ some 0) (q : Quantifier) :
    e.quantify q items condition = .ok (q.outcome e.exhaustive j items) := by
  have every (item : Json) (member : item ∈ items) :
      e.judgeOrRefuse condition item = .ok (item.isGood j, .ofItem j item) :=
    judgeOrRefuse_of_judged time (judged item member)
  have present (item : Json) (member : item ∈ items.filter Json.isTruthy) :
      e.judgeItem condition item = .ok (item.isGood j, .ofItem j item) := by
    obtain ⟨member, there⟩ := List.mem_filter.mp member
    exact judgeItem_of_judged time there (judged item member there)
  cases q with
  | all =>
      have offences : (items.filter fun item => item.isGood j == false) =
          items.filter fun item => !item.isGood j := by simp only [beq_false]
      have none : (items.filter fun item => !item.isGood j).isEmpty =
          items.all (Json.isGood j) := by
        rw [Bool.eq_iff_iff]
        simp
      rw [quantify, all, collect_of_tested _ _ every, ok_bind, offences, ofOffences_firstOf, none]
      rfl
  | any =>
      rw [quantify, any, search_of_tested present, any_isGood_present, Quantifier.outcome]
      cases found : items.any (Json.isGood j) with
      | true => rfl
      | false =>
          rw [← any_isGood_present] at found
          rw [Quantifier.upToFirst_of_none found]
          rfl
  | one =>
      obtain ⟨invalid, divided, same⟩ := divide_of_tested e.exhaustive every
      rw [quantify, one, divided, ok_bind, Quantifier.outcome]
      cases found : items.filter (Json.isGood j) with
      | nil =>
          have bad : items.filter (fun item => !item.isGood j) = items :=
            List.filter_eq_self.mpr (by simpa using found)
          rw [same (by simp [found]), bad]
          cases e.exhaustive <;> rfl
      | cons first others => cases others <;> cases e.exhaustive <;> rfl
  | none =>
      have good : (items.filter Json.isTruthy).filter (fun item => item.isGood j == true) =
          items.filter (Json.isGood j) := by
        rw [← filter_isGood_present]
        simp only [beq_true]
      rw [quantify, none, collect_of_tested _ _ present, ok_bind, good, ofOffences_firstOf]
      rfl

/-- The search ends at the second good item. The items before it that are absent or not good are
passed over. -/
theorem quantify_eq_outcome_two_good :
    let e : Evaluator := .ofSettings false 1
    let number (n : Int) : Json := .number (.integer n)
    let items := [number 0, number 3, number 1, number 2, number 5]
    let j (item : Json) : Judgement := ⟨item.beq (number 1) == false, [item]⟩
    (∀ item ∈ items, item.isTruthy = true → e.judge item "$ > 1" = .ok (j item)) ∧
      e.timeLeft ≠ some 0 ∧
      e.quantify .one items "$ > 1" = .ok ⟨false, some [⟨.array [number 3], some (number 3)⟩,
        ⟨.array [number 2], some (number 2)⟩]⟩ := by
  intro e number items j
  have judged : ∀ item ∈ items, item.isTruthy = true → e.judge item "$ > 1" = .ok (j item) := by
    intro item member present
    have : item = number 0 ∨ item = number 3 ∨ item = number 1 ∨ item = number 2 ∨
        item = number 5 := by simpa [items] using member
    rcases this with rfl | rfl | rfl | rfl | rfl
    · cases present
    all_goals exact judge_of_scalar rfl rfl (by decide +kernel)
  have time : e.timeLeft ≠ some 0 := by decide
  exact ⟨judged, time, quantify_eq_outcome judged time .one⟩

end Evaluator

end QualityGate
