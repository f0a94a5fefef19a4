import QualityGate.Proofs.Quantifier.Condition
import QualityGate.Quantifier.Condition

/-!
# What an early stop leaves of a search

An exhaustive search that comes to an outcome and the search that stops early agree on the result,
and the packages of the early stop are the first ones of the exhaustive search
(`QuantifierOutcome.StartOf`). `judgeQuantified_startOf` carries this from single quantifiers to
expressions that combine their calls in any way: both searches answer every call alike, so the
expression makes the same calls in the same order.

The exhaustive search may fail on an item that the other never looks at. Nothing is said then.
-/

namespace QualityGate

open Expression (Value Correspondence)

/-- The packages of an early stop: the first ones, and not none of them unless there are none. -/
def StartOfPackages (early late : List ReasonPackage) : Prop :=
  early <+: late ∧ (early = [] → late = [])

/-- The outcome of an early stop: the same result, with the first ones of the packages. -/
structure QuantifierOutcome.StartOf (early late : QuantifierOutcome) : Prop where
  result : early.result = late.result
  packages : Option.Rel StartOfPackages early.packages late.packages

theorem StartOfPackages.refl (packages : List ReasonPackage) : StartOfPackages packages packages :=
  ⟨List.prefix_refl packages, id⟩

theorem StartOfPackages.take (n : Nat) (packages : List ReasonPackage) :
    StartOfPackages (packages.take (n + 1)) packages := by
  refine ⟨List.take_prefix _ _, fun none => ?_⟩
  simpa using none

/-- The first package is that of the early stop. -/
theorem StartOfPackages.head? {early late : List ReasonPackage} (h : StartOfPackages early late) :
    early.head? = late.head? := by
  obtain ⟨⟨rest, rfl⟩, none⟩ := h
  cases early with
  | nil => rw [none rfl]
  | cons => rfl

namespace QuantifierOutcome.StartOf

theorem refl (o : QuantifierOutcome) : o.StartOf o := by
  refine ⟨rfl, ?_⟩
  cases o.packages with
  | none => exact .none
  | some packages => exact .some (.refl packages)

theorem ofOffences (packages : List ReasonPackage) :
    (ofOffences (packages.take 1)).StartOf (ofOffences packages) := by
  cases packages with
  | nil => exact refl _
  | cons first rest => exact ⟨rfl, .some (.take 0 (first :: rest))⟩

/-- Packages of an early stop lead the packages of the exhaustive search. -/
theorem getD_prefix {early late : QuantifierOutcome} (h : early.StartOf late) :
    early.packages.getD [] <+: late.packages.getD [] := by
  have related := h.packages
  generalize early.packages = ps, late.packages = qs at related
  cases related with
  | none => exact List.prefix_refl []
  | some start => exact start.1

end QuantifierOutcome.StartOf

namespace Evaluator

/-! ## Searches through a list -/

section Searches

variable {test : Json → Except Failure (Bool × ReasonPackage)} {wanted : Bool}

/-- Collecting up to the first package gives the first package of all. -/
theorem collect_take {items : List Json} {packages : List ReasonPackage}
    (all : collect true wanted test items = .ok packages) :
    collect false wanted test items = .ok (packages.take 1) := by
  induction items generalizing packages with
  | nil =>
      cases all
      rfl
  | cons item rest ih =>
      obtain ⟨⟨holds, package⟩, tested, all⟩ := bind_eq_ok_iff.mp all
      simp only [collect, tested, ok_bind]
      dsimp only at all
      split at all
      case isTrue hit =>
          obtain ⟨more, -, all⟩ := bind_eq_ok_iff.mp all
          cases all
          rw [if_pos hit]
          rfl
      case isFalse miss =>
          rw [if_neg miss]
          exact ih all

/-- Dividing only adds packages behind those already there. -/
theorem divide_prefix {exhaustive : Bool} {items : List Json}
    {valid invalid v i : List ReasonPackage}
    (done : divide exhaustive test valid invalid items = .ok (v, i)) : valid <+: v := by
  induction items generalizing valid invalid with
  | nil =>
      cases done
      exact List.prefix_refl _
  | cons item rest ih =>
      obtain ⟨⟨holds, package⟩, -, done⟩ := bind_eq_ok_iff.mp done
      dsimp only at done
      split at done
      · split at done
        · exact (List.prefix_append _ _).trans (ih done)
        · cases done
          exact List.prefix_append _ _
      · exact ih done

/-- Dividing up to a second item that passes gives the first two of all that pass, and all items
that fail if there are no two. -/
theorem divide_take {items : List Json} {valid invalid v i : List ReasonPackage}
    (all : divide true test valid invalid items = .ok (v, i)) (few : valid.length ≤ 1) :
    ∃ i', divide false test valid invalid items = .ok (v.take 2, i') ∧
      (v.length ≤ 1 → i' = i) := by
  induction items generalizing valid invalid with
  | nil =>
      cases all
      exact ⟨i, by rw [List.take_of_length_le (by omega)]; rfl, fun _ => rfl⟩
  | cons item rest ih =>
      obtain ⟨⟨holds, package⟩, tested, all⟩ := bind_eq_ok_iff.mp all
      simp only [divide, tested, ok_bind]
      cases holds with
      | false => exact ih all few
      | true =>
          simp only [Bool.or_true, if_true, Bool.or_false] at all ⊢
          cases valid with
          | nil => exact ih all (by simp)
          | cons first others =>
              obtain rfl : others = [] := List.eq_nil_of_length_eq_zero (by simpa using few)
              obtain ⟨more, rfl⟩ := divide_prefix all
              exact ⟨invalid, rfl, fun one => by simp at one⟩

end Searches

/-! ## Quantifiers -/

variable {e : Evaluator} {items : List Json} {condition : String} {late : QuantifierOutcome}

/-- An exhaustive quantifier that comes to an outcome has the early stop come to the start of it. -/
theorem quantify_startOf {q : Quantifier}
    (ok : { e with exhaustive := true }.quantify q items condition = .ok late) :
    ∃ early, { e with exhaustive := false }.quantify q items condition = .ok early ∧
      early.StartOf late := by
  cases q with
  | all =>
      obtain ⟨failures, collected, ok⟩ := bind_eq_ok_iff.mp ok
      cases ok
      refine ⟨_, ?_, QuantifierOutcome.StartOf.ofOffences failures⟩
      exact bind_eq_ok_iff.mpr ⟨_, collect_take collected, rfl⟩
  | any => exact ⟨late, ok, .refl late⟩
  | one =>
      obtain ⟨⟨valid, invalid⟩, divided, ok⟩ := bind_eq_ok_iff.mp ok
      obtain ⟨invalid', stopped, same⟩ := divide_take divided (by simp)
      match valid with
      | [] =>
          cases ok
          cases same (by simp)
          exact ⟨_, bind_eq_ok_iff.mpr ⟨_, stopped, rfl⟩, .refl _⟩
      | [package] =>
          cases ok
          exact ⟨_, bind_eq_ok_iff.mpr ⟨_, stopped, rfl⟩, .refl _⟩
      | first :: second :: rest =>
          cases ok
          refine ⟨_, bind_eq_ok_iff.mpr ⟨_, stopped, rfl⟩, rfl, ?_⟩
          exact .some (.take 1 (first :: second :: rest))
  | none =>
      obtain ⟨matching, collected, ok⟩ := bind_eq_ok_iff.mp ok
      cases ok
      refine ⟨_, ?_, QuantifierOutcome.StartOf.ofOffences matching⟩
      exact bind_eq_ok_iff.mpr ⟨_, collect_take collected, rfl⟩

/-! ## Expressions over quantifiers -/

/-- Calls of the exhaustive search and of the early stop answer alike as long as the former come to
outcomes. -/
def searchModes : Correspondence QuantifierCall QuantifierCall where
  clean call := ∃ late, call = .ok late
  alike call early := ∃ o p, call = .ok o ∧ early = .ok p ∧ p.StartOf o

theorem quantifierFunctions_searchModes [Readers] (name : String) :
    Option.Rel searchModes.Functions ({ e with exhaustive := true }.quantifierFunctions name)
      ({ e with exhaustive := false }.quantifierFunctions name) := by
  refine quantifierFunctions_rel (fun q items condition => ?_) name
  rintro ⟨late, ok⟩
  obtain ⟨early, stopped, start⟩ := quantify_startOf ok
  rw [ok, stopped]
  exact ⟨by simp only [callResult, start.result], late, early, rfl, rfl, start⟩

/-- Calls that answer alike have early stops that all come to outcomes. -/
theorem forall_ok_searchModes {calls early : List QuantifierCall}
    (alike : List.Forall₂ searchModes.alike calls early) : ∀ call ∈ early, ∃ o, call = .ok o := by
  induction alike with
  | nil => simp
  | cons first _ ih =>
      obtain ⟨_, p, -, rfl, -⟩ := first
      simpa using ih

theorem getLast?_forall₂ {α β : Type} {R : α → β → Prop} {xs : List α} {ys : List β}
    (each : List.Forall₂ R xs ys) : Option.Rel R xs.getLast? ys.getLast? := by
  rw [← List.head?_reverse, ← List.head?_reverse]
  have reversed := List.rel_reverse each
  generalize xs.reverse = us, ys.reverse = vs at reversed
  cases reversed with
  | nil => exact .none
  | cons last _ => exact .some last

/-- Of calls that answer alike the last packages are alike: those of the early stop are the start of
those of the exhaustive search. -/
theorem lastPackages_searchModes {calls early : List QuantifierCall}
    (alike : List.Forall₂ searchModes.alike calls early) :
    Option.Rel StartOfPackages (lastPackages early) (lastPackages calls) := by
  have outcomes : List.Forall₂ (fun o p : QuantifierOutcome => p.StartOf o)
      (calls.filterMap Except.toOption) (early.filterMap Except.toOption) := by
    refine List.rel_filterMap ?_ alike
    rintro _ _ ⟨o, p, rfl, rfl, start⟩
    exact .some start
  have last := getLast?_forall₂ outcomes
  unfold lastPackages
  generalize (calls.filterMap Except.toOption).getLast? = o,
    (early.filterMap Except.toOption).getLast? = p at last
  cases last with
  | none => exact .none
  | some start => exact start.packages

/-- A quantified condition judged by an exhaustive search is judged alike by the early stop. -/
theorem judgeQuantified_startOf [Readers]
    (ok : { e with exhaustive := true }.judgeQuantified items condition = .ok late) :
    ∃ early, { e with exhaustive := false }.judgeQuantified items condition = .ok early ∧
      early.StartOf late := by
  obtain ⟨answered, value, evaluated, rfl⟩ := judgeQuantified_eq_ok_iff.mp ok
  obtain ⟨result, alike⟩ := run_corresponds (m := searchModes)
    (quantifierFunctions_searchModes (e := e.withDeadline e.timeout))
    (e.withDeadline e.timeout) condition [(Quantifier.listName, .array items)] answered
  refine ⟨⟨value.isTruthy, _⟩, judgeQuantified_eq_ok_iff.mpr ⟨?_, value, ?_, rfl⟩, rfl, ?_⟩
  · exact forall_ok_searchModes alike
  · exact result.symm.trans evaluated
  · exact lastPackages_searchModes alike

end Evaluator

end QualityGate
