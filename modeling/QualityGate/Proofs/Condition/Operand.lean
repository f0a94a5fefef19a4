import QualityGate.Condition.Judgement
import QualityGate.Proofs.Condition.Literals
import QualityGate.Proofs.Condition.Segment
import QualityGate.Proofs.Expression.Following

/-!
# Tokens in place of operands

A path may be written in an expression wherever the name `value` stands as an operand
(`writeToken`). The condition should have the path as its only token, and substituting the name
should give the expression back.

Behind the name there is the end, a blank or a sign. All signs but the points, the brackets and the
parentheses that belong to the operand may follow a token, and the braces: the brace that closes a
map does not end a token. `scan_writeToken_iff` says that this is the only exception.
-/

namespace QualityGate.Condition

open Expression (Lexeme LexemeKind Term word)
open Expression.Lexeme (lexemes charsOf)
open Text (byteLength)

/-! ## Writing tokens -/

/-- The text of lexemes, with a path in place of the name. -/
def writePath (path : List Char) (ls : List Lexeme) : List Char :=
  ls.flatMap fun l => if l = word valueName then path else l.chars

/-- An expression with a path in place of the name. -/
def writeToken (path expression : String) : String :=
  String.ofList (writePath path.toList (lexemes expression.toList))

/-- The characters directly behind the name, among lexemes. -/
def charsBehind : List Lexeme → List Char
  | [] => []
  | l :: ls => if l = word valueName then (charsOf ls).head?.toList ++ charsBehind ls
    else charsBehind ls

/-- The characters that stand directly behind the name in an expression. -/
def behindName (expression : String) : List Char := charsBehind (lexemes expression.toList)

/-- The pieces of an expression with a path in place of the name. The path is a token where one may
end. -/
def writtenPieces (path : List Char) : List Lexeme → List Piece
  | [] => []
  | l :: ls => (if l = word valueName then
      if (charsOf ls).head?.all isTerminator then .token path false else .code path
    else .code l.chars) :: writtenPieces path ls

/-! ## What stands behind the name -/

section Behind

variable {l : Lexeme} {ls : List Lexeme} {c : Char}

theorem exists_of_mem_charsBehind (behind : c ∈ charsBehind ls) :
    ∃ before after, ls = before ++ word valueName :: after ∧ c ∈ (charsOf after).head? := by
  induction ls with
  | nil => cases behind
  | cons l ls ih =>
      have further (behind : c ∈ charsBehind ls) : ∃ before after,
          l :: ls = before ++ word valueName :: after ∧ c ∈ (charsOf after).head? := by
        obtain ⟨before, after, rfl, head⟩ := ih behind
        exact ⟨l :: before, after, rfl, head⟩
      rw [charsBehind] at behind
      split at behind
      case isTrue same =>
          rcases List.mem_append.mp behind with here | behind
          · exact ⟨[], ls, by rw [same, List.nil_append], Option.mem_toList.mp here⟩
          · exact further behind
      case isFalse => exact further behind

/-- Whether an operand ends before the character: one that may follow a token, or a brace. -/
def EndsOperand (c : Char) : Prop := isTerminator c = true ∨ c ∈ ['\x7b', '\x7d']

instance : DecidablePred EndsOperand := fun c =>
  inferInstanceAs (Decidable (isTerminator c = true ∨ c ∈ ['\x7b', '\x7d']))

theorem isTerminator_of_brace (brace : c ∈ ['\x7b', '\x7d']) : isTerminator c = false := by
  have either : c = '\x7b' ∨ c = '\x7d' := by simpa using brace
  rcases either with rfl | rfl <;> rfl

/-- An operand ends before every blank and every sign that does not go on with it. -/
theorem endsOperand_of_blank_or_sign
    (follows : Lexeme.isBlank c = true ∨ LexemeKind.sign.admits c = true)
    (ends : c ∉ ['.', '[', '(']) : EndsOperand c := by
  have signs : (['<', '>', '[', ']', '\x7b', '\x7d', '(', ')', '.', ',', '-', '!', '?', ':', '+',
      '*', '/', '%'] ++ ['=', '&', '|']).all
      (fun d => decide (d ∉ ['.', '[', '('] → EndsOperand d)) = true := by decide
  rcases follows with blank | sign
  · rcases Lexeme.eq_of_isBlank blank with rfl | rfl | rfl | rfl | rfl <;> exact .inl rfl
  · have member : c ∈ ['<', '>', '[', ']', '\x7b', '\x7d', '(', ')', '.', ',', '-', '!', '?', ':',
        '+', '*', '/', '%'] ++ ['=', '&', '|'] := by
      rw [List.mem_append]
      simpa only [LexemeKind.admits, Lexeme.isSingle, Bool.or_eq_true, List.contains_iff_mem]
        using sign
    exact of_decide_eq_true (List.all_eq_true.mp signs c member) ends

/-- A path ends before what may follow a token, and before a brace. -/
theorem endsPath_of_ends {rest : List Char}
    (ends : ∀ c ∈ rest.head?, EndsOperand c) : EndsPath rest := by
  intro c head
  have others : (['=', '!', '<', '>', '&', '|', '+', '-', '*', '/', '%', ',', ')', ']', '?', ':'] ++
      ['\x7b', '\x7d']).all
      (fun d => decide (Text.isNameRest d = false ∧ d ≠ '.' ∧ d ≠ '[')) = true := by decide
  have other := fun d member => of_decide_eq_true (List.all_eq_true.mp others d member)
  rcases ends c head with terminates | brace
  · rcases Bool.or_eq_true_iff.mp terminates with blank | sign
    · exact ⟨Text.isNameRest_eq_false_of_isBlank blank, Text.ne_of_isBlank blank rfl,
        Text.ne_of_isBlank blank rfl⟩
    · exact other c (List.mem_append_left _ (List.contains_iff_mem.mp sign))
  · exact other c (List.mem_append_right _ brace)

/-- What is known of the lexemes of an expression in which the name stands as an operand. -/
structure Writable (ls : List Lexeme) : Prop where
  unmarked : ∀ l ∈ ls, '$' ∉ l.chars
  nonempty : ∀ l ∈ ls, l.chars ≠ []
  ends : ∀ c ∈ charsBehind ls, EndsOperand c

theorem Writable.tail (writable : Writable (l :: ls)) : Writable ls where
  unmarked := fun k member => writable.unmarked k (.tail l member)
  nonempty := fun k member => writable.nonempty k (.tail l member)
  ends := by
    intro c behind
    refine writable.ends c ?_
    rw [charsBehind]
    split
    · exact List.mem_append_right _ behind
    · exact behind

/-- What stands directly behind the name. -/
theorem Writable.head (writable : Writable (word valueName :: ls)) :
    ∀ c ∈ (charsOf ls).head?, EndsOperand c := by
  intro c head
  refine writable.ends c ?_
  rw [charsBehind, if_pos rfl]
  exact List.mem_append_left _ (Option.mem_toList.mpr head)

/-- Behind the name there is no other one, so the same character stands there with a path in its
place. -/
theorem Writable.head?_writePath (writable : Writable (word valueName :: ls)) (path : List Char) :
    (writePath path ls).head? = (charsOf ls).head? := by
  cases ls with
  | nil => rfl
  | cons k ls =>
      obtain ⟨c, cs, chars⟩ := List.exists_cons_of_ne_nil
        (writable.nonempty k (.tail _ List.mem_cons_self))
      have other : k ≠ word valueName := by
        rintro rfl
        exact absurd (writable.head 'v' rfl) (by decide)
      rw [writePath, List.flatMap_cons, if_neg other, Lexeme.charsOf_cons, chars]
      rfl

/-- The lexemes of a term are writable, if the name stands only where an operand ends. -/
theorem writable_of_parse? {expression : String} {t : Term}
    (compiles : Expression.parse? expression = some t) (unmarked : '$' ∉ expression.toList)
    (operands : ∀ c ∈ behindName expression, c ∉ ['.', '[', '(']) :
    Writable (lexemes expression.toList) where
  unmarked := by
    intro l member mark
    refine unmarked ?_
    rw [← Lexeme.charsOf_lexemes expression.toList]
    exact List.mem_flatMap.mpr ⟨l, member, mark⟩
  nonempty := by
    intro l member none
    obtain ⟨before, after, parts⟩ := List.append_of_mem member
    obtain ⟨c, ds, text, cuts⟩ := Lexeme.lexemes_at parts
    obtain ⟨es, chars⟩ := Lexeme.exists_chars_cutFirst c ds
    rw [cuts, none] at chars
    cases chars
  ends := by
    intro c behind
    obtain ⟨before, after, parts, head⟩ := exists_of_mem_charsBehind behind
    have follows := Expression.head?_behind_name compiles parts rfl (by decide) c head
    exact endsOperand_of_blank_or_sign follows (operands c behind)

end Behind

/-! ## The written condition -/

section Written

variable {path : List Char} {l : Lexeme} {ls : List Lexeme} {segments : List (List Char)} {c : Char}
  {offset bound : Nat}

@[simp] theorem writePath_name (path : List Char) (ls : List Lexeme) :
    writePath path (word valueName :: ls) = path ++ writePath path ls := by
  simp [writePath]

theorem writePath_other (other : l ≠ word valueName) :
    writePath path (l :: ls) = l.chars ++ writePath path ls := by
  simp [writePath, other]

theorem chars_writtenPieces (path : List Char) (ls : List Lexeme) :
    (writtenPieces path ls).flatMap Piece.chars = writePath path ls := by
  induction ls with
  | nil => rfl
  | cons l ls ih =>
      rw [writtenPieces, List.flatMap_cons, ih]
      by_cases same : l = word valueName
      · rw [if_pos same, same, writePath_name]
        split <;> rfl
      · rw [if_neg same, writePath_other same]
        rfl

/-- A whole candidate is a token where one may end, and none before a brace. -/
theorem classify?_of_ends {candidate rest : List Char}
    (ends : ∀ c ∈ rest.head?, EndsOperand c) :
    classify? candidate rest =
      if rest.head?.all isTerminator then some (candidate, false) else none := by
  cases rest with
  | nil => rfl
  | cons c rest =>
      rcases ends c rfl with terminates | brace
      · simp [classify?, terminates]
      · have noParenthesis : c ≠ '(' := by
          rintro rfl
          exact absurd brace (by decide)
        simp [classify?, isTerminator_of_brace brace, noParenthesis]

/-- The occurrences in the written condition are the tokens among its pieces. -/
theorem occurrencesFrom_writePath (writable : Writable ls) (complete : ∀ s ∈ segments, IsSegment s)
    (whole : path = '$' :: segments.flatten) (enough : (writePath path ls).length ≤ bound) :
    occurrencesFrom bound offset (writePath path ls) =
      tokensFrom offset (writtenPieces path ls) := by
  induction ls generalizing offset bound with
  | nil => cases bound <;> rfl
  | cons l ls ih =>
      by_cases same : l = word valueName
      · subst same whole
        have head := writable.head?_writePath ('$' :: segments.flatten)
        have ends := writable.head
        rw [← head] at ends
        have cut := splitToken_flatten complete (endsPath_of_ends ends)
        rw [writePath_name, List.length_append, List.length_cons] at enough
        obtain ⟨bound, rfl⟩ : ∃ more, bound = more + 1 := Nat.exists_eq_add_of_le' (by omega)
        rw [writePath_name, List.cons_append, occurrencesFrom_mark, cut, classify?_of_ends ends,
          ih writable.tail (by omega), writtenPieces, if_pos rfl, ← head]
        split <;> rfl
      · rw [writePath_other same] at enough ⊢
        have free := writable.unmarked l List.mem_cons_self
        rw [occurrencesFrom_append (inert_of_not_mem free) enough, writtenPieces, if_neg same]
        rw [List.length_append] at enough
        exact ih writable.tail (by omega)

/-- All tokens of the written condition are the path. -/
theorem path_of_mem_tokensFrom {o : Occurrence}
    (token : o ∈ tokensFrom offset (writtenPieces path ls)) :
    o.path = path ∧ o.membership = false := by
  induction ls generalizing offset with
  | nil => cases token
  | cons l ls ih =>
      rw [writtenPieces] at token
      split at token
      case isTrue =>
          split at token
          case isTrue =>
              rcases List.mem_cons.mp token with rfl | behind
              · exact ⟨rfl, rfl⟩
              · exact ih behind
          case isFalse => exact ih token
      case isFalse => exact ih token

/-- Where what stands behind the name may follow a token, filling the tokens gives the expression
back. -/
theorem fill_writtenPieces (terminates : ∀ c ∈ charsBehind ls, isTerminator c = true) :
    (writtenPieces path ls).flatMap (Piece.fill valueName.toList) = charsOf ls := by
  induction ls with
  | nil => rfl
  | cons l ls ih =>
      rw [charsBehind] at terminates
      rw [writtenPieces, List.flatMap_cons, Lexeme.charsOf_cons]
      by_cases same : l = word valueName
      · rw [if_pos same, List.forall_mem_append] at terminates
        obtain ⟨here, behind⟩ := terminates
        have token := (Option.all_eq_true isTerminator _).mpr fun c head =>
          here c (Option.mem_toList.mpr head)
        rw [if_pos same, if_pos token, ih behind, same]
        rfl
      · rw [if_neg same] at terminates
        rw [if_neg same, ih terminates]
        rfl

/-- Where what stands behind the name may follow a token, there is a token. -/
theorem tokensFrom_writtenPieces_ne_nil (occurs : word valueName ∈ ls)
    (terminates : ∀ c ∈ charsBehind ls, isTerminator c = true) :
    tokensFrom offset (writtenPieces path ls) ≠ [] := by
  induction ls generalizing offset with
  | nil => cases occurs
  | cons l ls ih =>
      rw [charsBehind] at terminates
      rw [writtenPieces]
      by_cases same : l = word valueName
      · rw [if_pos same, List.forall_mem_append] at terminates
        have token := (Option.all_eq_true isTerminator _).mpr fun c head =>
          terminates.1 c (Option.mem_toList.mpr head)
        rw [if_pos same, if_pos token]
        exact List.cons_ne_nil _ _
      · rw [if_neg same] at terminates
        rw [if_neg same]
        exact ih ((List.mem_cons.mp occurs).resolve_left (Ne.symm same)) terminates

/-- Where what stands behind the name may not follow a token, the path is left over. -/
theorem code_mem_writtenPieces (path : List Char) (behind : c ∈ charsBehind ls)
    (goesOn : isTerminator c = false) :
    .code path ∈ writtenPieces path ls := by
  induction ls with
  | nil => cases behind
  | cons l ls ih =>
      rw [charsBehind] at behind
      rw [writtenPieces]
      by_cases same : l = word valueName
      · rw [if_pos same, List.mem_append] at behind
        rcases behind with here | behind
        · have noToken : ¬ (charsOf ls).head?.all isTerminator = true := by
            intro token
            have terminates := (Option.all_eq_true _ _).mp token c (Option.mem_toList.mp here)
            rw [terminates] at goesOn
            cases goesOn
          rw [if_pos same, if_neg noToken]
          exact List.mem_cons_self
        · exact List.mem_cons_of_mem _ (ih behind)
      · rw [if_neg same] at behind
        exact List.mem_cons_of_mem _ (ih behind)

end Written

/-! ## Scans -/

section Scans

variable {expression path : String}

/-- What occurs in the written condition are the tokens among its pieces. -/
theorem occurrences_writeToken (writable : Writable (lexemes expression.toList))
    (complete : IsPath path.toList) : occurrences (writeToken path expression).toList =
      tokensFrom 0 (writtenPieces path.toList (lexemes expression.toList)) := by
  obtain ⟨segments, complete, whole⟩ := complete
  rw [occurrences, writeToken, String.toList_ofList]
  exact occurrencesFrom_writePath writable complete whole (Nat.le_refl _)

/-- A substitution of the name fills the tokens among the pieces. -/
theorem substitute_writeToken {r : Reference} (writable : Writable (lexemes expression.toList))
    (complete : IsPath path.toList)
    (spans : r.spans = (occurrences (writeToken path expression).toList).map (·.span)) :
    r.substitute (writeToken path expression) valueName = String.ofList
      ((writtenPieces path.toList (lexemes expression.toList)).flatMap
        (Piece.fill valueName.toList)) := by
  have parts := chars_writtenPieces path.toList (lexemes expression.toList)
  rw [occurrences_writeToken writable complete] at spans
  exact substitute_of_pieces (by rw [parts, writeToken, String.toList_ofList]) spans valueName

end Scans

/-- **A token may stand wherever an operand may stand, except before a brace.** Where the name
`value` stands in an expression and nothing directly behind it goes on with the operand, a path may
be written in its place: the condition has the path as its only token, and substituting the name
gives the expression back, exactly if the name stands nowhere directly before a brace. A brace that
opens comes there only behind the kind of a message. -/
theorem scan_writeToken_iff {expression path : String} {t : Term}
    (compiles : Expression.parse? expression = some t) (unmarked : '$' ∉ expression.toList)
    (occurs : word valueName ∈ lexemes expression.toList)
    (operands : ∀ c ∈ behindName expression, c ∉ ['.', '[', '('])
    (complete : IsPath path.toList) :
    (∃ r, Reference.scan (writeToken path expression) = .ok r ∧ r.path = path ∧
        r.membership = false ∧ r.substitute (writeToken path expression) valueName = expression) ↔
      ∀ c ∈ behindName expression, c ∉ ['\x7b', '\x7d'] := by
  have writable := writable_of_parse? compiles unmarked operands
  have found := occurrences_writeToken writable complete
  constructor
  · rintro ⟨r, scan, -, -, same⟩ c behind brace
    -- The path that is left over before the brace has a mark, and the expression has none.
    have left := code_mem_writtenPieces path.toList behind (isTerminator_of_brace brace)
    have marked : '$' ∈ path.toList := by
      obtain ⟨segments, -, whole⟩ := complete
      rw [whole]
      exact List.mem_cons_self
    refine unmarked ?_
    rw [← same, substitute_writeToken writable complete (spans_of_scan scan), String.toList_ofList]
    exact List.mem_flatMap.mpr ⟨_, left, marked⟩
  · intro noBrace
    have terminates : ∀ c ∈ behindName expression, isTerminator c = true := fun c behind =>
      (writable.ends c behind).resolve_right (noBrace c behind)
    cases tokens : tokensFrom 0 (writtenPieces path.toList (lexemes expression.toList)) with
    | nil => exact absurd tokens (tokensFrom_writtenPieces_ne_nil occurs terminates)
    | cons o os =>
        have own {p : Occurrence} (token : p ∈ o :: os) :=
          path_of_mem_tokensFrom (tokens ▸ token : p ∈ tokensFrom 0 _)
        have scan := scan_of_single (found.trans tokens) fun p member =>
          (own (.tail o member)).1.trans (own List.mem_cons_self).1.symm
        refine ⟨_, scan, ?_, ?_, ?_⟩
        · rw [(own List.mem_cons_self).1, String.ofList_toList]
        · refine List.any_eq_false.mpr fun p member => ?_
          simp [(own member).2]
        · rw [substitute_writeToken writable complete (spans_of_scan scan),
            fill_writtenPieces terminates, Lexeme.charsOf_lexemes, String.ofList_toList]

/-- Operands in arguments, in a list, in an index, in a map and in the parts of a conditional. -/
theorem scan_writeToken_operands :
    let expression := "f(value) ? [value, 1] : -x[value] == \x7b1: value \x7d || value"
    behindName expression = [')', ',', ']', ' '] ∧
      ∃ r, Reference.scan (writeToken "$..a[0]" expression) = .ok r ∧ r.path = "$..a[0]" ∧
        r.membership = false ∧
        r.substitute (writeToken "$..a[0]" expression) valueName = expression := by
  have compiles : (Expression.parse?
      "f(value) ? [value, 1] : -x[value] == \x7b1: value \x7d || value").isSome = true := by
    decide +kernel
  obtain ⟨t, compiles⟩ := Option.isSome_iff_exists.mp compiles
  have behind : behindName "f(value) ? [value, 1] : -x[value] == \x7b1: value \x7d || value" =
      [')', ',', ']', ' '] := by decide +kernel
  have segments : ∀ s ∈ ["..a".toList, "[0]".toList], IsSegment s := by
    refine List.forall_mem_cons.mpr ⟨.descendant (.inr ⟨'a', [], rfl, by decide, by simp⟩), ?_⟩
    exact List.forall_mem_singleton.mpr (.bracket (.other (by decide) .nil))
  refine ⟨behind, (scan_writeToken_iff compiles (by decide +kernel) (by decide +kernel) ?_
    ⟨_, segments, by decide +kernel⟩).mpr ?_⟩
  · simp [behind]
  · simp [behind]

/-- Before the brace that closes a map no token is found. -/
theorem scan_writeToken_before_brace :
    let expression := "\x7b\"a\": value\x7d.a == 1"
    (Expression.parse? expression).isSome = true ∧ '$' ∉ expression.toList ∧
      word valueName ∈ lexemes expression.toList ∧
      (∀ c ∈ behindName expression, c ∉ ['.', '[', '(']) ∧ IsPath "$".toList ∧
      writeToken "$" expression = "\x7b\"a\": $\x7d.a == 1" ∧
      Reference.scan (writeToken "$" expression) =
        .error (.noReference "\x7b\"a\": $\x7d.a == 1") := by
  have behind : behindName "\x7b\"a\": value\x7d.a == 1" = ['\x7d'] := by decide +kernel
  have written : writeToken "$" "\x7b\"a\": value\x7d.a == 1" = "\x7b\"a\": $\x7d.a == 1" := by
    decide +kernel
  refine ⟨by decide +kernel, by decide +kernel, by decide +kernel, ?_, ⟨[], by simp, rfl⟩, written,
    ?_⟩
  · simp [behind]
  · rw [written]
    rfl

end QualityGate.Condition
