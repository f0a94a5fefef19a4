import QualityGate.Proofs.Quantifier.SearchMode

/-!
# `any` and `none`

`any` and `none` look for the same thing, an item that is present and satisfies the condition, by
two different searches. `search_cases` follows both through a list until they end: they fail at the
same item, or stop at the same item, or reach the end. So each says the opposite of the other
(`any_none_opposite`).

Only an exhaustive `none` looks further. It can fail where `any` has long stopped, so there nothing
is said about failures.
-/

namespace QualityGate.Evaluator

/-! ## Both searches -/

/-- The searches for the first match of `none` and of `any` fail alike, find the same match, which
is the last item that `any` examines, or both find none. -/
theorem search_cases (test : Json → Except Failure (Bool × ReasonPackage)) (items : List Json) :
    (∃ failure, collect false true test items = .error failure ∧
      search test items = .error failure) ∨
    (∃ examined, collect false true test items = .ok [] ∧
      search test items = .ok (false, examined)) ∨
    ∃ examined last, collect false true test items = .ok [last] ∧
      search test items = .ok (true, examined ++ [last]) := by
  induction items with
  | nil => exact .inr (.inl ⟨[], rfl, rfl⟩)
  | cons item rest ih =>
      cases tested : test item with
      | error failure =>
          exact .inl ⟨failure, bind_eq_error_iff.mpr (.inl tested),
            bind_eq_error_iff.mpr (.inl tested)⟩
      | ok verdict =>
          obtain ⟨holds, package⟩ := verdict
          simp only [collect, search, tested, ok_bind]
          cases holds with
          | true => exact .inr (.inr ⟨[], package, rfl, rfl⟩)
          | false =>
              rcases ih with ⟨failure, collected, searched⟩ | ⟨examined, collected, searched⟩ |
                ⟨examined, last, collected, searched⟩
              · refine .inl ⟨failure, collected, ?_⟩
                rw [searched]
                rfl
              · refine .inr (.inl ⟨package :: examined, collected, ?_⟩)
                rw [searched]
                rfl
              · refine .inr (.inr ⟨package :: examined, last, collected, ?_⟩)
                rw [searched]
                rfl

/-! ## Quantifiers -/

variable (e : Evaluator) (items : List Json) (condition : String)

/-- The early stops of `none` and `any`. -/
theorem none_any_cases :
    (∃ failure, { e with exhaustive := false }.none items condition = .error failure ∧
      e.any items condition = .error failure) ∨
    (∃ examined, { e with exhaustive := false }.none items condition = .ok ⟨true, .none⟩ ∧
      e.any items condition = .ok ⟨false, some examined⟩) ∨
    ∃ examined last, { e with exhaustive := false }.none items condition =
        .ok ⟨false, some [last]⟩ ∧
      e.any items condition = .ok ⟨true, some (examined ++ [last])⟩ := by
  rcases search_cases (e.judgeItem condition) (items.filter Json.isTruthy) with
    ⟨failure, collected, searched⟩ | ⟨examined, collected, searched⟩ |
    ⟨examined, last, collected, searched⟩
  · refine .inl ⟨failure, bind_pure_eq_error_iff.mpr collected, ?_⟩
    exact bind_eq_error_iff.mpr (.inl searched)
  · refine .inr (.inl ⟨examined, bind_eq_ok_iff.mpr ⟨_, collected, rfl⟩, ?_⟩)
    exact bind_eq_ok_iff.mpr ⟨_, searched, rfl⟩
  · refine .inr (.inr ⟨examined, last, bind_eq_ok_iff.mpr ⟨_, collected, rfl⟩, ?_⟩)
    exact bind_eq_ok_iff.mpr ⟨_, searched, rfl⟩

/-- An exhaustive `none` that comes to an outcome has the early stop come to the start of it. -/
theorem none_of_exhaustive {o : QuantifierOutcome}
    (ok : { e with exhaustive := true }.none items condition = .ok o) :
    ∃ early, { e with exhaustive := false }.none items condition = .ok early ∧ early.StartOf o :=
  quantify_startOf (q := .none) ok

/-- **`any` and `none` say the opposite of each other**, whatever the list, the condition and the
time. With an early stop they also fail alike. An exhaustive `none` that comes to an outcome has
`any` come to the opposite, and its packages start with the one that `any` ends with. -/
theorem any_none_opposite :
    (∀ b, (∃ ps, { e with exhaustive := false }.none items condition = .ok ⟨b, ps⟩) ↔
      ∃ ps, { e with exhaustive := false }.any items condition = .ok ⟨!b, ps⟩) ∧
    (∀ failure, { e with exhaustive := false }.none items condition = .error failure ↔
      { e with exhaustive := false }.any items condition = .error failure) ∧
    ∀ b ps, { e with exhaustive := true }.none items condition = .ok ⟨b, ps⟩ →
      ∃ ps', { e with exhaustive := true }.any items condition = .ok ⟨!b, ps'⟩ ∧
        (b = false → ∃ examined last others, ps' = some (examined ++ [last]) ∧
          ps = some (last :: others)) := by
  -- The search of `any` does not depend on the mode.
  have any (exhaustive : Bool) :
      { e with exhaustive }.any items condition = e.any items condition := rfl
  simp only [any]
  refine ⟨fun b => ?_, fun failure => ?_, fun b ps ok => ?_⟩
  · rcases none_any_cases e items condition with ⟨_, none, any⟩ | ⟨_, none, any⟩ | ⟨_, _, none, any⟩
    all_goals cases b <;> simp [none, any]
  · rcases none_any_cases e items condition with ⟨_, none, any⟩ | ⟨_, none, any⟩ | ⟨_, _, none, any⟩
    all_goals simp [none, any]
  · obtain ⟨early, stopped, result, packages⟩ := none_of_exhaustive e items condition ok
    rcases none_any_cases e items condition with ⟨failure, none, -⟩ | ⟨examined, none, any⟩ |
      ⟨examined, last, none, any⟩
    · rw [stopped] at none
      cases none
    · rw [stopped] at none
      cases none
      cases result
      exact ⟨_, any, nofun⟩
    · rw [stopped] at none
      cases none
      cases result
      cases packages with
      | some start =>
          obtain ⟨others, rfl⟩ := start.1
          exact ⟨_, any, fun _ => ⟨examined, last, others, rfl, rfl⟩⟩

/-- The first of two matches stops `any`, and an exhaustive `none` reports the other one too. -/
theorem any_none_opposite_two_matches :
    let e : Evaluator := .ofSettings true 1
    let items : List Json := [0, 1, 3, 2].map fun n => .number (.integer n)
    ∃ examined last other, e.none items "$ > 1" = .ok ⟨false, some [last, other]⟩ ∧
      e.any items "$ > 1" = .ok ⟨true, some (examined ++ [last])⟩ := by
  intro e items
  have seen : (e.none items "$ > 1").toOption.map
      (fun o => (o.result, o.packages.map List.length)) = some (false, some 2) := by
    decide +kernel
  obtain ⟨⟨b, ps⟩, none, seen⟩ := exists_ok_of_map_toOption seen
  obtain ⟨rfl, two⟩ := Prod.mk.inj seen
  obtain ⟨ps', any, reported⟩ := (any_none_opposite e items "$ > 1").2.2 false ps none
  obtain ⟨examined, last, others, rfl, rfl⟩ := reported rfl
  obtain ⟨other, rfl⟩ := List.length_eq_one_iff.mp (Nat.succ.inj (Option.some.inj two))
  exact ⟨examined, last, other, none, any⟩

end QualityGate.Evaluator
