import QualityGate.Path.Selection

/-!
# What the text of a path selects
-/

namespace QualityGate.Path

/-- The path without segments selects the document itself. -/
theorem select_root (document : Json) : select document "$" = .ok [document] := by
  have compiled : compile "$" = .ok ⟨[]⟩ := rfl
  simp only [select, compiled, query, walk]

/-- From nothing nothing is reached. -/
theorem walk_nil (document : Json) (segments : List Segment) : walk document segments [] = [] := by
  induction segments with
  | nil => rw [walk]
  | cons s rest ih =>
      have nowhere : s.step document [] = [] := by
        cases s <;> rw [Segment.step, List.flatMap_nil]
      rw [walk, nowhere, ih]

theorem pickAll_empty (document : Json) (selectors : List Selector) :
    pickAll document selectors (.array []) = [] := by
  induction selectors with
  | nil => rw [pickAll]
  | cons s rest ih =>
      have none : s.pick document (.array []) = [] := by
        cases s <;> simp [Selector.pick, Json.member?, Json.children, elementAt]
      rw [pickAll, none, ih, List.append_nil]

/-- Nothing is a child of an empty array. -/
theorem query_empty (selectors : List Selector) (rest : List Segment) :
    Path.query ⟨.child selectors :: rest⟩ (.array []) = [] := by
  rw [query, walk, Segment.step, List.flatMap_singleton, pickAll_empty, walk_nil]

theorem selectFirst_root (document : Json) : selectFirst document "$" = .ok (some document) := by
  rw [selectFirst, select_root]
  rfl

/-- A path of one index selects the element there, if there is one. -/
theorem selectFirst_index {text : String} {i : Int}
    (compiled : compile text = .ok ⟨[.child [.index i]]⟩) (document : Json) :
    selectFirst document text = .ok (elementAt i document) := by
  simp only [selectFirst, select, compiled, query, walk, Segment.step, pickAll, Selector.pick,
    List.flatMap_singleton, List.append_nil]
  cases elementAt i document <;> rfl

end QualityGate.Path
