import Mathlib.Data.List.Forall2
import QualityGate.Expression.Evaluation

/-!
# Corresponding runs

One expression, evaluated for two hosts whose functions answer alike, makes corresponding calls and
comes to one outcome. A `Correspondence` says which calls answer alike, and which calls of the first
host keep the promise alive: once the first host has made a call that is not `clean`, nothing is
said about the second.

* `Correspondence.Runs.bind` and its siblings are the rules for the pieces that runs are made of.
* `standard?_functions`: the functions that every expression may call keep the correspondence.
* `eval_runs`: so does every term, in scopes with the same variables and corresponding functions.
-/

namespace QualityGate.Expression

variable {κ μ α β : Type}

/-- Which calls of two hosts answer alike. -/
structure Correspondence (κ μ : Type) where
  /-- The calls of the first host that keep the promise alive. -/
  clean : κ → Prop
  /-- The calls of the two hosts that answer alike. -/
  alike : κ → μ → Prop

namespace Correspondence

variable (m : Correspondence κ μ)

/-- Unless the first run made a call that is not clean, both have one outcome and made
corresponding calls. -/
def Runs (r : Run κ α) (s : Run μ α) : Prop :=
  (∀ c ∈ r.calls, m.clean c) → r.outcome = s.outcome ∧ List.Forall₂ m.alike r.calls s.calls

/-- Two functions make corresponding runs of corresponding arguments. -/
def Functions (f : Function κ) (g : Function μ) : Prop :=
  ∀ target args args', List.Forall₂ m.Runs args args' → m.Runs (f target args) (g target args')

/-- Two scopes have the same variables and corresponding functions. -/
structure Scopes (s : Scope κ) (s' : Scope μ) : Prop where
  bindings : s.bindings = s'.bindings
  functions : ∀ name, Option.Rel m.Functions (s.function? name) (s'.function? name)

variable {m}

/-! ## Rules for runs -/

@[simp] theorem Runs.ofExcept (r : Except Fault α) : m.Runs (Run.ofExcept r) (Run.ofExcept r) :=
  fun _ => ⟨rfl, .nil⟩

@[simp] theorem Runs.pure (a : α) : m.Runs (Pure.pure a) (Pure.pure a) :=
  Runs.ofExcept (.ok a)

@[simp] theorem Runs.fail (e : Fault) : m.Runs (Run.fail e : Run κ α) (Run.fail e) :=
  Runs.ofExcept (.error e)

/-- Two recorded calls correspond when a clean first one is answered alike. -/
theorem Runs.record {c : κ} {d : μ} {r s : Except Fault α}
    (answers : m.clean c → r = s ∧ m.alike c d) : m.Runs (Run.record c r) (Run.record d s) := by
  intro clean
  obtain ⟨outcome, alike⟩ := answers (clean c (List.mem_singleton_self c))
  exact ⟨outcome, .cons alike .nil⟩

theorem Runs.bind {r : Run κ α} {s : Run μ α} {f : α → Run κ β} {g : α → Run μ β}
    (first : m.Runs r s) (next : ∀ a, m.Runs (f a) (g a)) : m.Runs (r >>= f) (s >>= g) := by
  obtain ⟨calls, outcome⟩ := r
  obtain ⟨calls', outcome'⟩ := s
  cases outcome with
  | error e =>
      intro clean
      obtain ⟨rfl, alike⟩ := first clean
      exact ⟨rfl, alike⟩
  | ok a =>
      intro clean
      change ∀ c ∈ calls ++ (f a).calls, m.clean c at clean
      obtain ⟨rfl, alike⟩ := first fun c member => clean c (List.mem_append_left _ member)
      obtain ⟨outcome, alike'⟩ := next a fun c member => clean c (List.mem_append_right _ member)
      exact ⟨outcome, List.rel_append alike alike'⟩

theorem Runs.withFault {r : Run κ α} {s : Run μ α} (e : Fault) (h : m.Runs r s) :
    m.Runs (r.withFault e) (s.withFault e) := by
  intro clean
  obtain ⟨outcome, alike⟩ := h clean
  exact ⟨by simp only [Run.withFault, outcome], alike⟩

theorem Runs.all {args : List (Run κ α)} {args' : List (Run μ α)}
    (h : List.Forall₂ m.Runs args args') : m.Runs (Run.all args) (Run.all args') := by
  induction h with
  | nil => exact Runs.pure []
  | cons first _ ih => exact first.bind fun a => ih.bind fun more => Runs.pure (a :: more)

/-- A choice that both runs make alike. -/
theorem Runs.ite {p : Prop} [Decidable p] {r r' : Run κ α} {s s' : Run μ α}
    (yes : m.Runs r s) (no : m.Runs r' s') :
    m.Runs (if p then r else r') (if p then s else s') := by
  split
  · exact yes
  · exact no

/-! ## Values, receivers and arguments -/

theorem wantText_runs (v : Value) : m.Runs (wantText v) (wantText v) := by
  cases v <;> simp [wantText]

theorem wantInstant_runs (v : Value) : m.Runs (wantInstant v) (wantInstant v) := by
  cases v <;> simp [wantInstant]

theorem sizeOf_runs (v : Value) : m.Runs (Expression.sizeOf v) (Expression.sizeOf v) := by
  cases v <;> simp [Expression.sizeOf]

theorem containsValue_runs (v x : Value) : m.Runs (containsValue v x) (containsValue v x) := by
  unfold containsValue
  split
  · exact Runs.pure _
  · split
    · exact Runs.pure _
    · exact Runs.fail _
  · split <;> exact Runs.pure _
  · split
    · exact Runs.fail _
    · exact Runs.pure _
    · exact Runs.pure _
  · exact Runs.pure _

theorem survivor_runs (keeps : Ordering) (items : List Value) (acc : Value) :
    m.Runs (survivor keeps acc items) (survivor keeps acc items) := by
  induction items generalizing acc with
  | nil => exact Runs.pure acc
  | cons x rest ih =>
      unfold survivor
      split
      · split
        · exact ih acc
        · exact ih x
      · exact Runs.fail _

theorem toInt_runs (v : Value) : m.Runs (toInt v) (toInt v) := by
  unfold toInt
  split
  · exact (Runs.ofExcept _).bind fun _ => Runs.pure _
  · exact Runs.ite (Runs.fail _) (Runs.pure _)
  · exact Runs.pure _
  · exact Runs.ite (Runs.pure _) (Runs.fail _)
  · exact Runs.fail _

theorem toUint_runs (v : Value) : m.Runs (toUint v) (toUint v) := by
  unfold toUint
  split
  · exact (Runs.ofExcept _).bind fun _ => Runs.pure _
  · exact Runs.ite (Runs.fail _) (Runs.pure _)
  · exact Runs.ite (Runs.pure _) (Runs.fail _)
  · exact Runs.pure _
  · exact Runs.fail _

theorem toDouble_runs (v : Value) : m.Runs (toDouble v) (toDouble v) := by
  unfold toDouble
  split
  · split
    · exact Runs.pure _
    · exact Runs.fail _
  · exact Runs.pure _
  · exact Runs.pure _
  · exact Runs.pure _
  · exact Runs.fail _

theorem toText_runs (v : Value) : m.Runs (toText v) (toText v) := by
  unfold toText
  split
  case h_3 s => split <;> simp
  all_goals simp

theorem argument_runs {args : List (Run κ Value)} {args' : List (Run μ Value)}
    (h : List.Forall₂ m.Runs args args') (place : Nat) :
    m.Runs (argument args place) (argument args' place) := by
  obtain ⟨length, each⟩ := List.forall₂_iff_get.mp h
  unfold argument
  by_cases bound : place < args.length
  · rw [List.getElem?_eq_getElem bound, List.getElem?_eq_getElem (length ▸ bound)]
    exact each place bound (length ▸ bound)
  · rw [List.getElem?_eq_none (by omega), List.getElem?_eq_none (by omega), length]
    exact Runs.fail _

theorem receiver_runs {args : List (Run κ Value)} {args' : List (Run μ Value)}
    (target : Option Value) (h : List.Forall₂ m.Runs args args') :
    m.Runs (receiver target args) (receiver target args') := by
  cases target with
  | some v => exact Runs.pure _
  | none => exact ((argument_runs h 0).withFault _).bind fun v => Runs.pure _

/-! ## Functions -/

theorem ofReceiver_functions {f : Value → Run κ Value} {g : Value → Run μ Value}
    (h : ∀ v, m.Runs (f v) (g v)) : m.Functions (ofReceiver f) (ofReceiver g) :=
  fun target _ _ args => (receiver_runs target args).bind fun p => h p.1

theorem ofPair_functions {f : Value → Value → Run κ Value} {g : Value → Value → Run μ Value}
    (h : ∀ v x, m.Runs (f v x) (g v x)) : m.Functions (ofPair f) (ofPair g) :=
  fun target _ _ args => (receiver_runs target args).bind fun p =>
    (argument_runs args p.2).bind fun x => h p.1 x

theorem ofTexts_functions {f : String → String → Run κ Value} {g : String → String → Run μ Value}
    (h : ∀ s t, m.Runs (f s t) (g s t)) : m.Functions (ofTexts f) (ofTexts g) :=
  fun target _ _ args => (receiver_runs target args).bind fun p =>
    (wantText_runs p.1).bind fun s => (argument_runs args p.2).bind fun v =>
      (wantText_runs v).bind fun t => h s t

theorem ofText_functions {f : String → Run κ Value} {g : String → Run μ Value}
    (h : ∀ s, m.Runs (f s) (g s)) : m.Functions (ofText f) (ofText g) :=
  fun _ _ _ args => (argument_runs args 0).bind fun v => (wantText_runs v).bind fun s => h s

theorem ofInstant_functions (f : Time.Instant → Int) :
    m.Functions (ofInstant f) (ofInstant f) :=
  ofReceiver_functions fun v => (wantInstant_runs v).bind fun _ => Runs.pure _

theorem picking_functions (keeps : Ordering) :
    m.Functions (picking keeps) (picking keeps) := by
  intro target args args' h
  refine (Runs.all h).bind fun values => ?_
  split
  case h_1 items =>
      cases items with
      | nil => exact Runs.pure _
      | cons v rest => exact survivor_runs keeps rest v
  case h_2 => exact Runs.pure _
  case h_3 =>
      cases values with
      | nil => exact Runs.pure _
      | cons v rest => exact survivor_runs keeps rest v

/-- The functions that every expression may call keep every correspondence. -/
theorem standard?_functions (name : String) :
    Option.Rel m.Functions (standard? name) (standard? name) := by
  unfold standard?
  split
  case h_1 => exact .some (ofReceiver_functions sizeOf_runs)
  case h_2 => exact .some (ofPair_functions containsValue_runs)
  case h_3 => exact .some (ofPair_functions fun _ _ => Runs.pure _)
  case h_4 => exact .some (ofTexts_functions fun _ _ => Runs.pure _)
  case h_5 => exact .some (ofTexts_functions fun _ _ => Runs.pure _)
  case h_6 =>
      refine .some (ofTexts_functions fun _ _ => ?_)
      split
      · exact Runs.pure _
      · exact Runs.fail _
  case h_7 => exact .some (picking_functions .gt)
  case h_8 => exact .some (picking_functions .lt)
  case h_9 => exact .some (ofReceiver_functions toInt_runs)
  case h_10 => exact .some (ofReceiver_functions toUint_runs)
  case h_11 => exact .some (ofReceiver_functions toDouble_runs)
  case h_12 => exact .some (ofReceiver_functions toText_runs)
  case h_13 => exact .some (ofText_functions fun _ => Runs.pure _)
  case h_14 | h_15 =>
      refine .some (ofText_functions fun _ => ?_)
      split
      · exact Runs.pure _
      · exact Runs.fail _
  case h_26 => exact .none
  all_goals exact .some (ofInstant_functions _)

/-! ## Scopes -/

variable {s : Scope κ} {s' : Scope μ}

theorem Scopes.bind (h : m.Scopes s s') (name : String) (v : Value) :
    m.Scopes (s.bind name v) (s'.bind name v) :=
  ⟨by simp only [Scope.bind, h.bindings], h.functions⟩

theorem Scopes.read (h : m.Scopes s s') (name : String) : m.Runs (s.read name) (s'.read name) := by
  unfold Scope.read
  rw [h.bindings]
  split
  · exact Runs.pure _
  · exact Runs.fail _

theorem Scopes.isSome_function? (h : m.Scopes s s') (name : String) :
    (s.function? name).isSome = (s'.function? name).isSome := by
  have related := h.functions name
  generalize s.function? name = f, s'.function? name = g at related
  cases related <;> rfl

theorem Scopes.field (h : m.Scopes s s') (v : Value) (name : String) :
    m.Runs (s.field v name) (s'.field v name) := by
  unfold Scope.field
  rw [h.isSome_function?]
  dsimp only
  split
  · exact Runs.pure _
  · exact Runs.ite (Runs.pure _) (Runs.fail _)

/-- Looking a function up finds corresponding functions, or none in both scopes. -/
theorem Scopes.find_bind (h : m.Scopes s s') (name : String) {f : Function κ → Run κ β}
    {g : Function μ → Run μ β} (next : ∀ a b, m.Functions a b → m.Runs (f a) (g b)) :
    m.Runs (s.find name >>= f) (s'.find name >>= g) := by
  have related := h.functions name
  unfold Scope.find
  generalize s.function? name = a, s'.function? name = b at related
  cases related with
  | none => exact Runs.fail _
  | some alike => exact next _ _ alike

/-! ## Walks -/

theorem peek_runs {args : List (Run κ Value)} {args' : List (Run μ Value)}
    (h : List.Forall₂ m.Runs args args') : m.Runs (peek args) (peek args') := by
  cases h with
  | nil => exact Runs.pure ()
  | cons first rest =>
      cases rest with
      | nil => exact first.bind fun _ => Runs.pure ()
      | cons second rest =>
          cases rest with
          | nil => exact first.bind fun _ => Runs.pure ()
          | cons => exact Runs.pure ()

theorem elementsOf_runs (v : Value) : m.Runs (elementsOf v) (elementsOf v) := by
  cases v <;> simp [elementsOf]

variable {test body : Value → Run κ Value} {test' body' : Value → Run μ Value}

theorem walkAll_runs (h : ∀ v, m.Runs (test v) (test' v)) (items : List Value) :
    m.Runs (walkAll test items) (walkAll test' items) := by
  induction items with
  | nil => exact Runs.pure _
  | cons x rest ih => exact (h x).bind fun _ => Runs.ite ih (Runs.pure _)

theorem walkExists_runs (h : ∀ v, m.Runs (test v) (test' v)) (items : List Value) (last : Value) :
    m.Runs (walkExists test last items) (walkExists test' last items) := by
  induction items generalizing last with
  | nil => exact Runs.pure _
  | cons x rest ih => exact (h x).bind fun v => Runs.ite (Runs.pure _) (ih v)

theorem walkExistsOne_runs (h : ∀ v, m.Runs (test v) (test' v)) (items : List Value)
    (found : Nat) :
    m.Runs (walkExistsOne test found items) (walkExistsOne test' found items) := by
  induction items generalizing found with
  | nil => exact Runs.pure _
  | cons x rest ih => exact (h x).bind fun _ => ih _

theorem walkMap_runs (passes : ∀ v, m.Runs (test v) (test' v))
    (h : ∀ v, m.Runs (body v) (body' v)) (items : List Value) :
    m.Runs (walkMap test body items) (walkMap test' body' items) := by
  induction items with
  | nil => exact Runs.pure _
  | cons x rest ih =>
      refine (passes x).bind fun _ => Runs.ite ?_ ih
      exact (h x).bind fun _ => ih.bind fun _ => Runs.pure _

theorem walk_runs (mode : Walk) (h : ∀ v, m.Runs (body v) (body' v)) (items : List Value) :
    m.Runs (mode.run body items) (mode.run body' items) := by
  cases mode with
  | all => exact walkAll_runs h items
  | «exists» => exact walkExists_runs h items _
  | existsOne => exact walkExistsOne_runs h items 0
  | filter => exact (walkMap_runs h (fun _ => Runs.pure _) items).bind fun _ => Runs.pure _
  | map => exact (walkMap_runs (fun _ => Runs.pure _) h items).bind fun _ => Runs.pure _

/-! ## Terms -/

mutual

/-- A term makes corresponding runs in corresponding scopes. -/
theorem eval_runs : ∀ (t : Term) {s : Scope κ} {s' : Scope μ}, m.Scopes s s' →
    m.Runs (t.eval s) (t.eval s')
  | .literal _, _, _, _ => Runs.pure _
  | .name x, _, _, h => h.read x
  | .select t x, _, _, h => (eval_runs t h).bind fun v => h.field v x
  | .has t _, _, _, h => (eval_runs t h).bind fun _ => Runs.pure _
  | .index t i, _, _, h =>
      (eval_runs t h).bind fun _ => (eval_runs i h).bind fun _ => Runs.ofExcept _
  | .call f args, _, _, h =>
      (peek_runs (evalEach_runs args h)).bind fun _ =>
        h.find_bind f fun _ _ alike => alike none _ _ (evalEach_runs args h)
  | .invoke t f args, _, _, h =>
      (peek_runs (evalEach_runs args h)).bind fun _ =>
        h.find_bind f fun _ _ alike =>
          (eval_runs t h).bind fun v => alike (some v) _ _ (evalEach_runs args h)
  | .not t, _, _, h => (eval_runs t h).bind fun _ => Runs.pure _
  | .negate t, _, _, h => (eval_runs t h).bind fun _ => Runs.ofExcept _
  | .binary _ left right, _, _, h =>
      (eval_runs left h).bind fun _ => (eval_runs right h).bind fun _ => Runs.ofExcept _
  | .and left right, _, _, h =>
      (eval_runs left h).bind fun _ =>
        Runs.ite ((eval_runs right h).bind fun _ => Runs.pure _) (Runs.pure _)
  | .or left right, _, _, h =>
      (eval_runs left h).bind fun _ => Runs.ite (Runs.pure _) (eval_runs right h)
  | .conditional test t u, _, _, h =>
      (eval_runs test h).bind fun _ => Runs.ite (eval_runs t h) (eval_runs u h)
  | .list items, _, _, h => (Runs.all (evalEach_runs items h)).bind fun _ => Runs.pure _
  | .map entries, _, _, h => (evalEntries_runs entries h []).bind fun _ => Runs.pure _
  | .message _, _, _, _ => Runs.fail _
  | .walk mode range x body, _, _, h =>
      (eval_runs range h).bind fun v => (elementsOf_runs v).bind fun items =>
        walk_runs mode (fun v => eval_runs body (h.bind x v)) items
  | .mapWhere range x test body, _, _, h =>
      (eval_runs range h).bind fun v => (elementsOf_runs v).bind fun items =>
        (walkMap_runs (fun v => eval_runs test (h.bind x v))
          (fun v => eval_runs body (h.bind x v)) items).bind fun _ => Runs.pure _

theorem evalEach_runs : ∀ (ts : List Term) {s : Scope κ} {s' : Scope μ}, m.Scopes s s' →
    List.Forall₂ m.Runs (evalEach ts s) (evalEach ts s')
  | [], _, _, _ => .nil
  | t :: rest, _, _, h => .cons (eval_runs t h) (evalEach_runs rest h)

theorem evalEntries_runs : ∀ (es : List (Term × Term)) {s : Scope κ} {s' : Scope μ},
    m.Scopes s s' → ∀ entries : List (Key × Value),
    m.Runs (evalEntries es s entries) (evalEntries es s' entries)
  | [], _, _, _, entries => Runs.pure entries
  | (k, t) :: rest, _, _, h, entries => by
      refine (eval_runs k h).bind fun key => ?_
      split
      · exact Runs.fail _
      · exact (eval_runs t h).bind fun v => evalEntries_runs rest h _

end

end Correspondence
end QualityGate.Expression
