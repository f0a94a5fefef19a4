import QualityGate.Expression.Evaluation
import QualityGate.Proofs.Expression.Renaming

/-!
# Renaming without capture

A renamed term means what the term means, in a scope that knows the new names, unless the renaming
brings a name under a binder of another one, or gives a function or a field another name. Whether it
does so is seen from the term alone (`Renaming.keeps`), and `Renaming.eval_term` says that otherwise
both terms make the same run.
-/

namespace QualityGate.Expression

variable {κ : Type}

theorem Scope.read_bind (s : Scope κ) (x y : String) (v : Value) :
    (s.bind x v).read y = if y = x then pure v else s.read y := by
  simp only [Scope.read, Scope.bind, List.lookup_cons]
  by_cases own : y = x
  · simp [own]
  · simp [own, beq_false_of_ne own]

namespace Renaming

/-! ## Names and what binds them -/

/-- Whether a name is the same after the renaming. -/
def fixes (m : Renaming) (x : String) : Bool := m.apply x = x

section Binders

variable (m : Renaming) (free : String → Bool)

/-- Whether a name under some binders, the innermost first, is bound by the same one of them after
the renaming, or by none and may stand free. -/
def keepsName : List String → String → Bool
  | [], x => free x
  | y :: binders, x => x = y || (m.apply x ≠ m.apply y && keepsName binders x)

mutual

/-- Whether all variables of a term under some binders keep what binds them, and all functions and
fields their names. What no binder binds has to be one of the free names. -/
def keeps (binders : List String) : Term → Bool
  | .literal _ => true
  | .name x => m.keepsName free binders x
  | .select t field | .has t field => keeps binders t && m.fixes field
  | .index t i => keeps binders t && keeps binders i
  | .call f args => m.fixes f && keepsEach binders args
  | .invoke t f args => keeps binders t && m.fixes f && keepsEach binders args
  | .not t | .negate t => keeps binders t
  | .binary _ left right | .and left right | .or left right =>
    keeps binders left && keeps binders right
  | .conditional test t u => keeps binders test && keeps binders t && keeps binders u
  | .list items => keepsEach binders items
  | .map entries => keepsEntries binders entries
  | .message _ => true
  | .walk _ range x body => keeps binders range && keeps (x :: binders) body
  | .mapWhere range x test body =>
    keeps binders range && keeps (x :: binders) test && keeps (x :: binders) body

/-- Whether all of these terms keep theirs. -/
def keepsEach (binders : List String) : List Term → Bool
  | [] => true
  | t :: rest => keeps binders t && keepsEach binders rest

/-- Whether all keys and values of these entries keep theirs. -/
def keepsEntries (binders : List String) : List (Term × Term) → Bool
  | [] => true
  | (k, t) :: rest => keeps binders k && keeps binders t && keepsEntries binders rest

end

/-- Whether two scopes under some binders have the same variables, under their old and their new
names, and the same functions. -/
structure Scopes (binders : List String) (s s' : Scope κ) : Prop where
  read : ∀ {x}, m.keepsName free binders x = true → s.read x = s'.read (m.apply x)
  functions : s.function? = s'.function?

end Binders

variable {m : Renaming} {free : String → Bool}

section Scopes

variable {binders : List String} {s s' : Scope κ}

/-- One more variable may be bound on both sides, under its old and its new name. -/
theorem Scopes.bind (h : m.Scopes free binders s s') (x : String) (v : Value) :
    m.Scopes free (x :: binders) (s.bind x v) (s'.bind (m.apply x) v) := by
  refine ⟨fun {y} kept => ?_, h.functions⟩
  rw [Scope.read_bind, Scope.read_bind]
  by_cases own : y = x
  · rw [own, if_pos rfl, if_pos rfl]
  · have kept : m.apply y ≠ m.apply x ∧ m.keepsName free binders y = true := by
      simpa [keepsName, own] using kept
    rw [if_neg own, if_neg kept.1, h.read kept.2]

theorem Scopes.find (h : m.Scopes free binders s s') (f : String) : s.find f = s'.find f := by
  rw [Scope.find, Scope.find, h.functions]

theorem Scopes.field (h : m.Scopes free binders s s') : s.field = s'.field := by
  funext v field
  simp only [Scope.field, h.functions]

end Scopes

theorem apply_of_fixes {x : String} (fixed : m.fixes x = true) : m.apply x = x :=
  of_decide_eq_true fixed

/-! ## Terms -/

mutual

/-- A term whose names keep what binds them makes the same run after the renaming. -/
theorem eval_term : ∀ (t : Term) {binders : List String} {s s' : Scope κ},
    m.Scopes free binders s s' → m.keeps free binders t = true → (m.term t).eval s' = t.eval s
  | .literal _, _, _, _, _, _ => rfl
  | .name x, _, _, _, h, kept => (h.read kept).symm
  | .select t x, _, _, _, h, kept => by
      obtain ⟨kept, fixed⟩ := Bool.and_eq_true_iff.mp kept
      rw [term, Term.eval, Term.eval, apply_of_fixes fixed, eval_term t h kept, h.field]
  | .has t x, _, _, _, h, kept => by
      obtain ⟨kept, fixed⟩ := Bool.and_eq_true_iff.mp kept
      rw [term, Term.eval, Term.eval, apply_of_fixes fixed, eval_term t h kept]
  | .index t i, _, _, _, h, kept => by
      obtain ⟨kept, kept'⟩ := Bool.and_eq_true_iff.mp kept
      rw [term, Term.eval, Term.eval, eval_term t h kept, eval_term i h kept']
  | .call f args, _, _, _, h, kept => by
      obtain ⟨fixed, kept⟩ := Bool.and_eq_true_iff.mp kept
      rw [term, Term.eval, Term.eval, apply_of_fixes fixed, evalEach_terms args h kept, h.find]
  | .invoke t f args, _, _, _, h, kept => by
      obtain ⟨kept, keptEach⟩ := Bool.and_eq_true_iff.mp kept
      obtain ⟨kept, fixed⟩ := Bool.and_eq_true_iff.mp kept
      rw [term, Term.eval, Term.eval, apply_of_fixes fixed, evalEach_terms args h keptEach,
        eval_term t h kept, h.find]
  | .not t, _, _, _, h, kept => by
      rw [term, Term.eval, Term.eval, eval_term t h kept]
  | .negate t, _, _, _, h, kept => by
      rw [term, Term.eval, Term.eval, eval_term t h kept]
  | .binary op left right, _, _, _, h, kept => by
      obtain ⟨kept, kept'⟩ := Bool.and_eq_true_iff.mp kept
      rw [term, Term.eval, Term.eval, eval_term left h kept, eval_term right h kept']
  | .and left right, _, _, _, h, kept => by
      obtain ⟨kept, kept'⟩ := Bool.and_eq_true_iff.mp kept
      rw [term, Term.eval, Term.eval, eval_term left h kept, eval_term right h kept']
  | .or left right, _, _, _, h, kept => by
      obtain ⟨kept, kept'⟩ := Bool.and_eq_true_iff.mp kept
      rw [term, Term.eval, Term.eval, eval_term left h kept, eval_term right h kept']
  | .conditional test t u, _, _, _, h, kept => by
      obtain ⟨kept, keptElse⟩ := Bool.and_eq_true_iff.mp kept
      obtain ⟨kept, keptThen⟩ := Bool.and_eq_true_iff.mp kept
      rw [term, Term.eval, Term.eval, eval_term test h kept, eval_term t h keptThen,
        eval_term u h keptElse]
  | .list items, _, _, _, h, kept => by
      rw [term, Term.eval, Term.eval, evalEach_terms items h kept]
  | .map entries, _, _, _, h, kept => by
      rw [term, Term.eval, Term.eval, evalEntries_entries entries h kept]
  | .message _, _, _, _, _, _ => rfl
  | .walk mode range x body, _, s, s', h, kept => by
      obtain ⟨kept, kept'⟩ := Bool.and_eq_true_iff.mp kept
      -- The range stands outside of the binder, the body under it.
      have inside : (fun v => (m.term body).eval (s'.bind (m.apply x) v)) =
          fun v => body.eval (s.bind x v) := funext fun v => eval_term body (h.bind x v) kept'
      rw [term, Term.eval, Term.eval, eval_term range h kept, inside]
  | .mapWhere range x test body, _, s, s', h, kept => by
      obtain ⟨kept, keptBody⟩ := Bool.and_eq_true_iff.mp kept
      obtain ⟨kept, keptTest⟩ := Bool.and_eq_true_iff.mp kept
      have testing : (fun v => (m.term test).eval (s'.bind (m.apply x) v)) =
          fun v => test.eval (s.bind x v) := funext fun v => eval_term test (h.bind x v) keptTest
      have inside : (fun v => (m.term body).eval (s'.bind (m.apply x) v)) =
          fun v => body.eval (s.bind x v) := funext fun v => eval_term body (h.bind x v) keptBody
      rw [term, Term.eval, Term.eval, eval_term range h kept, testing, inside]

theorem evalEach_terms : ∀ (ts : List Term) {binders : List String} {s s' : Scope κ},
    m.Scopes free binders s s' → m.keepsEach free binders ts = true →
    evalEach (m.terms ts) s' = evalEach ts s
  | [], _, _, _, _, _ => rfl
  | t :: rest, _, _, _, h, kept => by
      obtain ⟨kept, keptRest⟩ := Bool.and_eq_true_iff.mp kept
      rw [terms, evalEach, evalEach, eval_term t h kept, evalEach_terms rest h keptRest]

theorem evalEntries_entries : ∀ (es : List (Term × Term)) {binders : List String}
    {s s' : Scope κ}, m.Scopes free binders s s' → m.keepsEntries free binders es = true →
    evalEntries (m.entries es) s' = evalEntries es s
  | [], _, _, _, _, _ => rfl
  | (k, t) :: rest, _, _, _, h, kept => by
      obtain ⟨kept, keptRest⟩ := Bool.and_eq_true_iff.mp kept
      obtain ⟨kept, keptValue⟩ := Bool.and_eq_true_iff.mp kept
      funext earlier
      rw [entries, evalEntries, evalEntries, eval_term k h kept, eval_term t h keptValue,
        evalEntries_entries rest h keptRest]

end

end Renaming

end QualityGate.Expression
