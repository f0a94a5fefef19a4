/-!
# Steps that may fail

A sequence of steps comes to a value exactly when each of its steps does.
-/

namespace QualityGate

variable {ε α β : Type}

/-- A step and what follows it come to a value together. -/
theorem bind_eq_ok_iff {r : Except ε α} {f : α → Except ε β} {b : β} :
    (r >>= f) = .ok b ↔ ∃ a, r = .ok a ∧ f a = .ok b := by
  cases r with
  | error e => exact ⟨fun h => (nomatch h), fun ⟨_, h, _⟩ => (nomatch h)⟩
  | ok a => exact ⟨fun h => ⟨a, rfl, h⟩, fun ⟨_, h, rest⟩ => by cases h; exact rest⟩

/-- A step and what follows it fail where either does. -/
theorem bind_eq_error_iff {r : Except ε α} {f : α → Except ε β} {e : ε} :
    (r >>= f) = .error e ↔ r = .error e ∨ ∃ a, r = .ok a ∧ f a = .error e := by
  cases r with
  | error e' => exact ⟨fun h => .inl (by cases h; rfl), fun h => by
      rcases h with h | ⟨_, h, _⟩
      · cases h
        rfl
      · cases h⟩
  | ok a => exact ⟨fun h => .inr ⟨a, rfl, h⟩, fun h => by
      rcases h with h | ⟨_, h, rest⟩
      · cases h
      · cases h
        exact rest⟩

/-- A step with nothing behind it that may fail fails where it does. -/
theorem bind_pure_eq_error_iff {r : Except ε α} {f : α → β} {e : ε} :
    (r >>= fun a => pure (f a)) = .error e ↔ r = .error e := by
  rw [bind_eq_error_iff]
  exact or_iff_left fun ⟨_, _, done⟩ => nomatch done

@[simp] theorem ok_bind (a : α) (f : α → Except ε β) : (Except.ok a >>= f) = f a := rfl

/-- What is seen of the value of an outcome shows that there is one. -/
theorem exists_ok_of_map_toOption {r : Except ε α} {f : α → β} {b : β}
    (seen : r.toOption.map f = some b) : ∃ a, r = .ok a ∧ f a = b := by
  cases r with
  | error e => cases seen
  | ok a => exact ⟨a, rfl, Option.some.inj seen⟩

end QualityGate
