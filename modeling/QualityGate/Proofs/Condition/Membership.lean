import QualityGate.Proofs.Check.Validation
import QualityGate.Proofs.Condition.Literals
import QualityGate.Proofs.Condition.TokenEnd
import QualityGate.Proofs.Expression.LiteralText

/-!
# Conditions on membership

A condition may call `includes` on its token with a literal (`inclusion`). Whatever the segments of
the path are, the name of the method is cut off behind them, so the list of all selected values takes
the place of the token (`prepare_inclusion`), and the expression that the condition becomes is read
as the call of the method on this list (`parse?_inclusion`).

So such a condition holds if any of the values equals what the literal denotes, and not only if the
first one does (`Evaluator.judge_inclusion`).
-/

namespace QualityGate

namespace Condition

open Expression (IsLiteral Lexeme Operator Term Value Reads readTerm readExactly sign word parse?)
open Expression.Lexeme (tokens? EndsName tokens?_name tokens?_point tokens?_separator tokens?_nil)
open Text (byteLength)

/-- The text that calls `includes` on a path or a name, with a literal. -/
def inclusion (subject literal : String) : String := subject ++ ".includes(" ++ literal ++ ")"

section Inclusion

variable {path literal : String} {x : Value}

theorem toList_inclusion (subject literal : String) : (inclusion subject literal).toList =
    subject.toList ++ '.' :: "includes".toList ++ '(' :: (literal.toList ++ [')']) := by
  simp [inclusion]

theorem isPlainName_includes : IsPlainName "includes".toList :=
  ⟨'i', "ncludes".toList, by decide, by decide, List.all_eq_true.mp (by decide)⟩

/-! ## Scans -/

/-- The pieces of such a condition: its path, and the call behind it. -/
def inclusionPieces (path literal : String) : List Piece :=
  [.token path.toList true, .code ('.' :: "includes".toList ++ '(' :: (literal.toList ++ [')']))]

theorem chars_inclusionPieces (path literal : String) :
    (inclusionPieces path literal).flatMap Piece.chars = (inclusion path literal).toList := by
  simp [toList_inclusion, inclusionPieces, Piece.chars]

/-- A name in place of the path is called as the path was. -/
theorem fill_inclusionPieces (path literal name : String) :
    String.ofList ((inclusionPieces path literal).flatMap (Piece.fill name.toList)) =
      inclusion name literal := by
  rw [← String.ofList_toList (s := inclusion name literal), toList_inclusion]
  simp [inclusionPieces, Piece.fill]

/-- The path alone is the token, and behind it nothing occurs. -/
theorem occurrences_inclusion (complete : IsPath path.toList) (unmarked : '$' ∉ literal.toList) :
    occurrences (inclusion path literal).toList = tokensFrom 0 (inclusionPieces path literal) := by
  have token := classify?_of_call complete isPlainName_includes (literal.toList ++ [')'])
  obtain ⟨segments, complete, whole⟩ := complete
  have cut : splitToken (segments.flatten ++ '.' :: "includes".toList ++
      '(' :: (literal.toList ++ [')'])) = (_, _) :=
    splitToken_of_call complete isPlainName_includes
  have behind : '$' ∉ '(' :: (literal.toList ++ [')']) := by simp [unmarked]
  have shape : (inclusion path literal).toList = [] ++ '$' :: (segments.flatten ++
      '.' :: "includes".toList ++ '(' :: (literal.toList ++ [')'])) := by
    rw [toList_inclusion, whole]
    rfl
  rw [whole, List.cons_append] at token
  rw [occurrences, shape, occurrencesFrom_round List.not_mem_nil, occurrenceAt?, cut,
    occurrencesFrom_of_unmarked behind, token, inclusionPieces, whole]
  rfl

/-- The reference of such a condition. -/
def inclusionReference (path literal : String) : Reference :=
  ⟨path, true, (tokensFrom 0 (inclusionPieces path literal)).map (·.span)⟩

theorem scan_inclusion (complete : IsPath path.toList) (unmarked : '$' ∉ literal.toList) :
    Reference.scan (inclusion path literal) = .ok (inclusionReference path literal) := by
  rw [scan_of_single (occurrences_inclusion complete unmarked) nofun, String.ofList_toList]
  rfl

/-- The list of all values takes the place of the token. -/
theorem prepare_inclusion (complete : IsPath path.toList) (unmarked : '$' ∉ literal.toList) :
    prepare (inclusion path literal) =
      .ok ⟨inclusionReference path literal, inclusion valuesName literal⟩ := by
  have substituted : (inclusionReference path literal).substitute (inclusion path literal)
      valuesName = inclusion valuesName literal := by
    rw [substitute_of_pieces (chars_inclusionPieces path literal) rfl, fill_inclusionPieces]
  rw [prepare, scan_inclusion complete unmarked]
  exact congrArg (fun text => Except.ok (Prepared.mk _ text)) substituted

/-! ## Reading -/

namespace IsPlainName

variable {name rest : List Char}

/-- A name is one token, if the text behind it cannot continue it. -/
theorem tokens?_append (plain : IsPlainName name) (ends : EndsName rest) :
    tokens? (name ++ rest) = (tokens? rest).map (⟨.name, name⟩ :: ·) := by
  obtain ⟨c, cs, rfl, start, name⟩ := plain
  exact tokens?_name start name ends

theorem tokens?_member (plain : IsPlainName name) (ends : EndsName rest) :
    tokens? ('.' :: (name ++ rest)) =
      (tokens? rest).map fun ls => ⟨.sign, ['.']⟩ :: ⟨.name, name⟩ :: ls := by
  obtain ⟨c, cs, rfl, start, name⟩ := plain
  rw [List.cons_append, tokens?_point start, ← List.cons_append, tokens?_name start name ends,
    Option.map_map]
  rfl

end IsPlainName

/-- The tokens of the expression, around those of the literal. -/
theorem tokens?_inclusion {ls : List Lexeme}
    (cuts : ∀ rest, tokens? (literal.toList ++ ')' :: rest) =
      (tokens? (')' :: rest)).map (ls ++ ·)) :
    tokens? (inclusion valuesName literal).toList = some
      (word valuesName :: sign "." :: word "includes" :: sign "(" :: (ls ++ [sign ")"])) := by
  have values : IsPlainName valuesName.toList :=
    ⟨'v', "alues".toList, by decide, by decide, List.all_eq_true.mp (by decide)⟩
  have point (rest : List Char) : EndsName ('.' :: rest) := by
    rintro _ ⟨⟩
    decide
  have opens (rest : List Char) : EndsName ('(' :: rest) := by
    rintro _ ⟨⟩
    decide
  rw [toList_inclusion, List.append_assoc, List.cons_append, values.tokens?_append (point _),
    isPlainName_includes.tokens?_member (opens _),
    tokens?_separator _ (by decide), cuts, tokens?_separator _ (by decide), tokens?_nil]
  rfl

/-- What the condition becomes is the call of the method on the list of all values. -/
theorem parse?_inclusion (denotes : IsLiteral literal.toList x) :
    parse? (inclusion valuesName literal) =
      some (.invoke (.name valuesName) "includes" [.literal x]) := by
  obtain ⟨l, ls, start, cuts, reads⟩ := denotes.exists_tokens
  refine Expression.parse?_of_reads (tokens?_inclusion cuts) ?_
  have argument (n : Nat) :
      Reads (readTerm (n + 1)) Expression.disjunctionStops (l :: ls) (.literal x) :=
    (reads (readTerm n)).comparison.disjunction.term
  have starts (rest : List Lexeme) : readExactly (sign ")") (l :: ls ++ rest) = none :=
    if_neg start
  exact (Expression.reads_invoke (by decide) (by decide) rfl
    (Expression.readArguments_single (argument _) starts)).comparison.disjunction

/-! ## Evaluation -/

/-- The method compares the values with the literal as the operator of equality does. -/
theorem any_ofItems_eq_true_iff (values : List Json) :
    (Value.ofItems values).any (·.same x) = true ↔
      ∃ v ∈ values, Operator.equal.apply (.ofJson v) x = .ok (.bool true) := by
  induction values with
  | nil => simp [Value.ofItems]
  | cons v values ih => simp [Value.ofItems, Operator.apply, ih]

/-- With time left, the expression comes to whether any of the values equals the literal. -/
theorem compute_inclusion {e : Evaluator} (time : e.budget ≠ 0) (denotes : IsLiteral literal.toList x)
    (values : List Json) : e.compute (inclusion valuesName literal) (bindings values) =
      .ok (.bool ((Value.ofItems values).any (·.same x))) := by
  rw [Evaluator.compute, Evaluator.run_of_time time, parse?_inclusion denotes]
  rfl

end Inclusion

end Condition

open Condition (inclusion)

/-- **A condition on membership looks at all values.** For every path of complete segments that
compiles, and every literal without a mark, the condition that calls `includes` on the path with the
literal comes to a result on every subject, as long as there is time left. Its values are all that
the path selects, or the subject itself where that is neither an object nor an array. The condition
holds if and only if some of these values equals the literal, so it does not matter in which order
and how often they are selected. -/
theorem Evaluator.judge_inclusion {e : Evaluator} {path literal : String} {x : Expression.Value}
    (time : e.budget ≠ 0) (complete : Condition.IsPath path.toList)
    (compiles : Path.Compiles path) (denotes : Expression.IsLiteral literal.toList x)
    (unmarked : '$' ∉ literal.toList) (subject : Json) :
    ∃ j, e.judge subject (inclusion path literal) = .ok j ∧
      (if subject.isContainer then Path.select subject path = .ok j.values
        else j.values = [subject]) ∧
      (j.holds = true ↔
        ∃ v ∈ j.values, Expression.Operator.equal.apply (.ofJson v) x = .ok (.bool true)) ∧
      ∀ other k, e.judge other (inclusion path literal) = .ok k →
        (∀ v, v ∈ k.values ↔ v ∈ j.values) → k.holds = j.holds := by
  have judged (subject : Json) {values : List Json}
      (selected : Condition.valuesOf subject path = .ok values) :
      e.judge subject (inclusion path literal) =
        .ok ⟨(Expression.Value.ofItems values).any (·.same x), values⟩ := by
    rw [judge, Condition.prepare_inclusion complete unmarked, ok_bind]
    have own : (Condition.inclusionReference path literal).path = path := rfl
    rw [own, selected, ok_bind, Condition.compute_inclusion time denotes]
    rfl
  obtain ⟨values, selected⟩ := Condition.exists_valuesOf compiles subject
  refine ⟨_, judged subject selected, ?_, Condition.any_ofItems_eq_true_iff values, ?_⟩
  · unfold Condition.valuesOf at selected
    split at selected
    case isTrue container => exact (if_pos container).mpr selected
    case isFalse plain => exact (if_neg plain).mpr (Except.ok.inj selected).symm
  · intro other k answers same
    obtain ⟨others, selected'⟩ := Condition.exists_valuesOf compiles other
    rw [judged other selected'] at answers
    obtain rfl := Except.ok.inj answers
    rw [Bool.eq_iff_iff, Condition.any_ofItems_eq_true_iff, Condition.any_ofItems_eq_true_iff]
    simp only [same]

/-- The last of the selected values is the number of an unsigned literal, behind a filter with a
bracket in a name. -/
theorem Evaluator.judge_inclusion_filter :
    let document : Json := .object [("rows", .array [.object [("tags", .array [.string "n"])],
      .object [("k]", .null), ("tags", .array [.string "n", .bool true, .number (.integer 3)])]])]
    ∃ j, (ofSettings false 1).judge document (inclusion "$..rows[?@['k]']].tags[*]" "3u") = .ok j ∧
      j.values = [.string "n", .bool true, .number (.integer 3)] ∧ j.holds = true := by
  intro document
  have compiled : Path.compile "$..rows[?@['k]']].tags[*]" = .ok ⟨[.descendant [.name "rows"],
      .child [.filter (.exists .current [.child [.name "k]"]])], .child [.name "tags"],
      .child [.wildcard]]⟩ := rfl
  have selected : Path.select document "$..rows[?@['k]']].tags[*]" =
      .ok [.string "n", .bool true, .number (.integer 3)] := by
    rw [Path.select, compiled]
    simp only [document, Path.query, Path.walk, Path.Segment.step, List.flatMap_singleton,
      Path.everywhere, Path.everywhereMembers, Path.everywhereItems, Path.pickAll,
      Path.Selector.pick, Path.Test.holds, Path.Origin.value]
    rfl
  have complete : Condition.IsPath "$..rows[?@['k]']].tags[*]".toList :=
    (Condition.isPath_iff "..rows[?@['k]']].tags[*]".toList).mpr (by decide +kernel)
  have denotes : Expression.IsLiteral "3u".toList (.uint 3) :=
    ⟨[⟨.unsigned, "3u".toList⟩], rfl, .inl rfl⟩
  have time : (ofSettings false 1).budget ≠ 0 := by decide
  obtain ⟨j, judged, all, holds, -⟩ := judge_inclusion time complete ⟨_, compiled⟩ denotes
    (by decide) document
  have values : j.values = [.string "n", .bool true, .number (.integer 3)] :=
    (Except.ok.inj (all.symm.trans selected))
  refine ⟨j, judged, values, holds.mpr ⟨.number (.integer 3), ?_, rfl⟩⟩
  rw [values]
  simp

end QualityGate
