import Mathlib.Data.Option.Basic
import QualityGate.Proofs.Path.Passing

/-!
# Filters in the text of a path

A filter is written with a question mark, and a question mark outside of strings starts a filter. So
a path has a filter exactly if such a mark stands in its text (`contains_outside_of_parse?`): the
marks in what a reader reads are those of the filters that it returns (`Covers`). A test stands
within a filter, so of its readers it only matters that they end outside of strings (`Closes`).

The text `[?` is another matter: it may stand in a string, and a filter may be written without it
(`mentionsFilter_eq_hasFilter_iff`).
-/

namespace QualityGate.Path

open Json (skipBlanks)
open Text (isDigit)

/-! ## Selectors and segments -/

/-- Whether a text is read up to the rest, and the reader ends outside of strings. -/
def Closed (cs rest : List Char) : Prop := ∃ asked, Passes .code .code asked cs rest

/-- Whether a reader ends outside of strings. -/
def Closes {α : Type} (reader : Reader α) : Prop :=
  ∀ cs x rest, reader cs = some (x, rest) → Closed cs rest

section Closed

variable {cs ds es : List Char} {a : Bool}

theorem Passes.closed (passes : Passes .code .code a cs ds) : Closed cs ds := ⟨a, passes⟩

theorem Closed.trans (first : Closed cs ds) (second : Closed ds es) : Closed cs es := by
  obtain ⟨a, first⟩ := first
  obtain ⟨b, second⟩ := second
  exact ⟨a || b, first.trans second⟩

theorem Covers.closes {α : Type} {reader : Reader α} {asked : α → Bool}
    (covers : Covers reader asked) : Closes reader :=
  fun cs x rest read => (covers cs x rest read).closed

theorem closed_plain {c : Char} (plain : Plain c) (cs : List Char) : Closed (c :: cs) cs :=
  (passes_plain plain cs).closed

theorem closed_skipBlanks (cs : List Char) : Closed cs (skipBlanks cs) :=
  (passes_skipBlanks cs).closed

end Closed

theorem passes_readBound (cs : List Char) : Passes .code .code false cs (readBound cs).2 := by
  unfold readBound
  split
  case h_1 i rest read => exact (covers_readInteger cs i rest read).skip (passes_skipBlanks rest)
  case h_2 => exact .refl _ _

theorem covers_readSlice : Covers readSlice Selector.isFilter := by
  intro cs s rest read
  have first := passes_readBound cs
  unfold readSlice at read
  dsimp only at read
  split at read
  case h_1 more behind =>
      rw [behind] at first
      have colon := first.skip (passes_plain (by decide) more)
      have second := colon.skip ((passes_skipBlanks more).skip (passes_readBound _))
      split at read
      case h_1 more' behind' =>
          have blanks := passes_skipBlanks (readBound (skipBlanks more)).2
          rw [behind'] at blanks
          have colon' := second.skip (blanks.skip (passes_plain (by decide) more'))
          split at read
          case h_1 step rest' integer =>
              cases read
              exact colon'.skip ((passes_skipBlanks more').skip
                (covers_readInteger _ step rest integer))
          case h_2 =>
              cases read
              exact colon'
      case h_2 =>
          cases read
          exact second
  case h_2 => cases read

section Segments

variable {test : Reader Test}

theorem Closes.readSelector (closes : Closes test) :
    Covers (readSelector test) Selector.isFilter := by
  intro cs s rest read
  unfold Path.readSelector at read
  split at read
  case h_1 more =>
      cases read
      exact passes_plain (by decide) rest
  case h_2 more =>
      obtain ⟨⟨t, behind⟩, inner, same⟩ := Option.map_eq_some_iff.mp read
      cases same
      obtain ⟨asked, closed⟩ := closes _ t _ inner
      exact (passes_question more).trans ((passes_skipBlanks more).skip closed)
  case h_3 | h_4 =>
      obtain ⟨⟨key, behind⟩, string, same⟩ := Option.map_eq_some_iff.mp read
      cases same
      exact covers_readString _ key _ string
  case h_5 =>
      rcases (Option.orElse_eq_some _ _ _).mp read with slice | ⟨-, read⟩
      · exact covers_readSlice cs s rest slice
      · obtain ⟨⟨i, behind⟩, integer, same⟩ := Option.map_eq_some_iff.mp read
        cases same
        exact covers_readInteger cs i _ integer

theorem Closes.readSelectors (closes : Closes test) (fuel : Nat) :
    Covers (readSelectors test fuel) (·.any Selector.isFilter) := by
  induction fuel with
  | zero => exact fun _ _ _ read => nomatch read
  | succ fuel ih =>
      intro cs selectors rest read
      obtain ⟨⟨s, behind⟩, first, read⟩ := Option.bind_eq_some_iff.mp read
      have own := (passes_skipBlanks cs).skip (closes.readSelector _ s behind first)
      have blanks := passes_skipBlanks behind
      dsimp only at read
      split at read
      case h_1 more comma =>
          obtain ⟨⟨others, behind'⟩, later, read⟩ := Option.bind_eq_some_iff.mp read
          cases read
          rw [comma] at blanks
          have next := own.finish (blanks.skip (passes_plain (by decide) more))
          exact next.trans (ih more others _ later)
      case h_2 more close =>
          cases read
          rw [close] at blanks
          simpa using own.finish (blanks.skip (passes_plain (by decide) _))
      case h_3 => cases read

theorem covers_readShorthand : Covers readShorthand (·.any Selector.isFilter) := by
  intro cs selectors rest read
  unfold readShorthand at read
  split at read
  case h_1 =>
      cases read
      exact passes_plain (by decide) rest
  case h_2 =>
      obtain ⟨⟨key, behind⟩, name, same⟩ := Option.map_eq_some_iff.mp read
      cases same
      exact covers_readName cs key _ name

theorem Closes.readSegment (closes : Closes test) :
    Covers (readSegment test) (·.selectors.any Selector.isFilter) := by
  intro cs s rest read
  have point (more : List Char) : Passes .code .code false ('.' :: more) more :=
    passes_plain (by decide) more
  have bracket (more : List Char) : Passes .code .code false ('[' :: more) more :=
    passes_plain (by decide) more
  unfold Path.readSegment at read
  split at read
  case h_1 more =>
      obtain ⟨⟨selectors, behind⟩, inner, same⟩ := Option.map_eq_some_iff.mp read
      cases same
      exact (point _).skip ((point _).skip ((bracket more).skip
        (closes.readSelectors _ more selectors _ inner)))
  case h_2 more _ =>
      obtain ⟨⟨selectors, behind⟩, inner, same⟩ := Option.map_eq_some_iff.mp read
      cases same
      exact (point _).skip ((point more).skip (covers_readShorthand more selectors _ inner))
  case h_3 =>
      have blanks := passes_skipBlanks cs
      split at read
      case h_1 more behind =>
          obtain ⟨⟨selectors, behind'⟩, inner, same⟩ := Option.map_eq_some_iff.mp read
          cases same
          rw [behind] at blanks
          exact blanks.skip ((bracket more).skip (closes.readSelectors _ more selectors _ inner))
      case h_2 more behind =>
          obtain ⟨⟨selectors, behind'⟩, inner, same⟩ := Option.map_eq_some_iff.mp read
          cases same
          rw [behind] at blanks
          exact blanks.skip ((point more).skip (covers_readShorthand more selectors _ inner))
      case h_3 => cases read

theorem Covers.readMany {α : Type} {one : Reader α} {asked : α → Bool} (covers : Covers one asked)
    (fuel : Nat) (cs : List Char) :
    Passes .code .code ((readMany one fuel cs).1.any asked) cs (readMany one fuel cs).2 := by
  induction fuel generalizing cs with
  | zero => exact .refl _ _
  | succ fuel ih =>
      rw [Path.readMany]
      cases first : one cs with
      | none => exact .refl _ _
      | some parts =>
          obtain ⟨x, rest⟩ := parts
          exact (covers cs x rest first).trans (ih rest)

theorem Closes.readQuery (closes : Closes test) : Closes (readQuery test) := by
  intro cs q rest read
  obtain ⟨⟨origin, behind⟩, start, read⟩ := Option.bind_eq_some_iff.mp read
  cases read
  have segments := closes.readSegment.readMany behind.length behind
  unfold readOrigin at start
  split at start
  case h_1 | h_2 =>
      cases start
      exact (closed_plain (by decide) _).trans segments.closed
  case h_3 => cases start

end Segments

/-! ## Tests -/

theorem closes_readCall : Closes readCall := by
  intro cs name rest read
  have front := passes_dropWhile (p := fun c => ('a' ≤ c && c ≤ 'z') || isDigit c || c == '_')
    (by decide) cs
  unfold readCall at read
  dsimp only at read
  split at read
  case h_1 more behind =>
      obtain ⟨-, read⟩ := Option.ite_none_left_eq_some.mp read
      cases read
      rw [behind] at front
      exact front.closed.trans ((closed_plain (by decide) more).trans (closed_skipBlanks more))
  case h_2 => cases read

theorem closed_of_readClose {cs rest : List Char} (read : readClose cs = some rest) :
    Closed cs rest := by
  have blanks := closed_skipBlanks cs
  unfold readClose at read
  split at read
  case h_1 more behind =>
      cases read
      rw [behind] at blanks
      exact blanks.trans (closed_plain (by decide) rest)
  case h_2 => cases read

theorem closes_readWord {word : List Char}
    (plain : word.all (fun c => decide (Plain c)) = true) (v : Json) :
    Closes (Json.readWord word v) := by
  intro cs x rest read
  obtain ⟨starts, read⟩ := Option.ite_none_right_eq_some.mp read
  cases read
  exact (passes_drop_of_isPrefixOf starts plain).closed

theorem closes_readLiteral : Closes readLiteral := by
  intro cs v rest read
  unfold readLiteral at read
  split at read
  case h_1 | h_2 =>
      obtain ⟨⟨s, behind⟩, string, same⟩ := Option.map_eq_some_iff.mp read
      cases same
      exact covers_readString.closes _ s _ string
  case h_3 | h_4 | h_5 => exact closes_readWord (by decide) _ _ v rest read
  case h_6 =>
      obtain ⟨⟨n, behind⟩, number, same⟩ := Option.map_eq_some_iff.mp read
      cases same
      exact covers_readNumber.closes cs n _ number

theorem closes_readComparison : Closes readComparison := by
  intro cs op rest read
  unfold readComparison at read
  split at read
  case h_1 | h_2 | h_3 | h_4 =>
      cases read
      exact (closed_plain (by decide) _).trans (closed_plain (by decide) rest)
  case h_5 | h_6 =>
      cases read
      exact closed_plain (by decide) rest
  case h_7 => cases read

section Tests

variable {test one : Reader Test}

theorem Closes.readOperand (closes : Closes test) (depth : Nat) :
    Closes (readOperand test depth) := by
  induction depth with
  | zero => exact fun _ _ _ read => nomatch read
  | succ depth ih =>
      intro cs x rest read
      unfold Path.readOperand at read
      split at read
      case h_1 name more call =>
          have opened := closes_readCall cs name more call
          have query (make : Origin → List Segment → Operand)
              (read : ((Path.readQuery test more).bind fun q =>
                (readClose q.2).bind fun rest => some (make q.1.1 q.1.2, rest)) = some (x, rest)) :
              Closed cs rest := by
            obtain ⟨q, path, read⟩ := Option.bind_eq_some_iff.mp read
            obtain ⟨behind, close, read⟩ := Option.bind_eq_some_iff.mp read
            cases read
            exact opened.trans ((closes.readQuery more q.1 q.2 path).trans
              (closed_of_readClose close))
          split at read
          case isTrue =>
              obtain ⟨⟨y, behind⟩, operand, read⟩ := Option.bind_eq_some_iff.mp read
              obtain ⟨behind', close, read⟩ := Option.bind_eq_some_iff.mp read
              cases read
              exact opened.trans ((ih more y behind operand).trans (closed_of_readClose close))
          split at read
          · exact query .count read
          split at read
          · exact query .value read
          · cases read
      case h_2 =>
          split at read
          case h_1 origin segments behind path =>
              obtain ⟨steps, -, same⟩ := Option.map_eq_some_iff.mp read
              cases same
              exact closes.readQuery cs _ _ path
          case h_2 =>
              obtain ⟨⟨v, behind⟩, literal, same⟩ := Option.map_eq_some_iff.mp read
              cases same
              exact closes_readLiteral cs v _ literal

theorem Closes.readCompareRest (closes : Closes test) (depth : Nat) (left : Operand) :
    Closes (readCompareRest test depth left) := by
  intro cs t rest read
  obtain ⟨⟨op, behind⟩, sign, read⟩ := Option.bind_eq_some_iff.mp read
  obtain ⟨⟨right, behind'⟩, operand, read⟩ := Option.bind_eq_some_iff.mp read
  cases read
  have signed := (closed_skipBlanks cs).trans (closes_readComparison _ op behind sign)
  exact signed.trans ((closed_skipBlanks behind).trans (closes.readOperand depth _ right _ operand))

theorem Closes.readCompare (closes : Closes test) (depth : Nat) :
    Closes (readCompare test depth) := by
  intro cs t rest read
  obtain ⟨⟨left, behind⟩, operand, read⟩ := Option.bind_eq_some_iff.mp read
  exact (closes.readOperand depth cs left behind operand).trans
    (closes.readCompareRest depth left behind t rest read)

theorem Closes.readPathTest (closes : Closes test) (depth : Nat) :
    Closes (readPathTest test depth) := by
  intro cs t rest read
  obtain ⟨⟨⟨origin, segments⟩, behind⟩, path, read⟩ := Option.bind_eq_some_iff.mp read
  have query := closes.readQuery cs _ behind path
  rcases (Option.orElse_eq_some _ _ _).mp read with compared | ⟨-, present⟩
  · obtain ⟨steps, -, compared⟩ := Option.bind_eq_some_iff.mp compared
    exact query.trans (closes.readCompareRest depth _ behind t rest compared)
  · cases present
    exact query

theorem Closes.readMatching (closes : Closes test) (depth : Nat) :
    Closes (readMatching test depth) := by
  intro cs t rest read
  obtain ⟨⟨name, behind⟩, call, read⟩ := Option.bind_eq_some_iff.mp read
  obtain ⟨-, read⟩ := Option.ite_none_left_eq_some.mp read
  obtain ⟨⟨text, behind'⟩, first, read⟩ := Option.bind_eq_some_iff.mp read
  have opened := (closes_readCall cs name behind call).trans
    (closes.readOperand depth behind text behind' first)
  have blanks := closed_skipBlanks behind'
  dsimp only at read
  split at read
  case h_1 more comma =>
      obtain ⟨⟨pattern, behind''⟩, second, read⟩ := Option.bind_eq_some_iff.mp read
      obtain ⟨last, close, read⟩ := Option.bind_eq_some_iff.mp read
      cases read
      rw [comma] at blanks
      have next := (opened.trans blanks).trans (closed_plain (by decide) more)
      have closed := (closes.readOperand depth _ pattern _ second).trans
        (closed_of_readClose close)
      exact next.trans ((closed_skipBlanks more).trans closed)
  case h_2 => cases read

theorem Closes.readPositive (closes : Closes test) (depth : Nat) :
    Closes (readPositive test depth) := by
  intro cs t rest read
  unfold Path.readPositive at read
  split at read
  case h_1 more =>
      obtain ⟨⟨u, behind⟩, inner, read⟩ := Option.bind_eq_some_iff.mp read
      obtain ⟨behind', close, read⟩ := Option.bind_eq_some_iff.mp read
      cases read
      have opened := (closed_plain (c := '(') (by decide) more).trans (closed_skipBlanks more)
      exact opened.trans ((closes _ t behind inner).trans (closed_of_readClose close))
  case h_2 =>
      rcases (Option.orElse_eq_some _ _ _).mp read with matching | ⟨-, read⟩
      · exact closes.readMatching depth cs t rest matching
      · obtain ⟨q, path, same⟩ := Option.map_eq_some_iff.mp read
        cases same
        exact closes.readQuery cs q.1 _ path

theorem Closes.readBasic (closes : Closes test) (depth : Nat) : Closes (readBasic test depth) := by
  intro cs t rest read
  unfold Path.readBasic at read
  split at read
  case h_1 more =>
      obtain ⟨⟨u, behind⟩, positive, same⟩ := Option.map_eq_some_iff.mp read
      cases same
      have opened := (closed_plain (c := '!') (by decide) more).trans (closed_skipBlanks more)
      exact opened.trans (closes.readPositive depth _ u _ positive)
  case h_2 | h_3 => exact closes.readPathTest depth _ t rest read
  case h_4 =>
      rcases (Option.orElse_eq_some _ _ _).mp read with compare | ⟨-, positive⟩
      · exact closes.readCompare depth cs t rest compare
      · exact closes.readPositive depth cs t rest positive

theorem Closes.readChain (closes : Closes one) (sign : Char) (plain : Plain sign)
    (join : Test → Test → Test) (fuel : Nat) (t : Test) (cs : List Char) :
    Closed cs (readChain one sign join fuel t cs).2 := by
  induction fuel generalizing t cs with
  | zero => exact (Passes.refl _ _).closed
  | succ fuel ih =>
      have blanks := closed_skipBlanks cs
      unfold Path.readChain
      split
      case h_1 a b more behind =>
          split
          case isTrue signs =>
              rw [behind, signs.1, signs.2] at blanks
              have opened := blanks.trans ((closed_plain plain _).trans (closed_plain plain more))
              split
              case h_1 u rest next =>
                  have right := (closed_skipBlanks more).trans (closes _ u rest next)
                  exact (opened.trans right).trans (ih (join t u) rest)
              case h_2 => exact (Passes.refl _ _).closed
          case isFalse => exact (Passes.refl _ _).closed
      case h_2 => exact (Passes.refl _ _).closed

theorem Closes.readConjunction (closes : Closes test) (depth : Nat) :
    Closes (readConjunction test depth) := by
  intro cs t rest read
  obtain ⟨⟨u, behind⟩, first, read⟩ := Option.bind_eq_some_iff.mp read
  have chain := (closes.readBasic depth).readChain '&' (by decide) .and behind.length u
    behind
  rw [Option.some.inj read] at chain
  exact (closes.readBasic depth cs u behind first).trans chain

theorem Closes.readDisjunction (closes : Closes test) (depth : Nat) :
    Closes (readDisjunction test depth) := by
  intro cs t rest read
  obtain ⟨⟨u, behind⟩, first, read⟩ := Option.bind_eq_some_iff.mp read
  have chain := (closes.readConjunction depth).readChain '|' (by decide) .or
    behind.length u behind
  rw [Option.some.inj read] at chain
  exact (closes.readConjunction depth cs u behind first).trans chain

theorem closes_readTest (depth : Nat) : Closes (readTest depth) := by
  induction depth with
  | zero => exact fun _ _ _ read => nomatch read
  | succ depth ih => exact fun cs t rest read => ih.readDisjunction (depth + 1) cs t rest read

end Tests

/-! ## Paths -/

/-- A path has a filter exactly if a question mark stands outside of the strings of its text. -/
theorem contains_outside_of_parse? {text : String} {p : Path} (parsed : parse? text = some p) :
    (Mode.code.outside text.toList).contains '?' = p.hasFilter := by
  unfold parse? at parsed
  split at parsed
  case h_1 rest whole =>
      dsimp only at parsed
      obtain ⟨none, same⟩ := Option.ite_none_right_eq_some.mp parsed
      cases same
      have segments := (closes_readTest (rest.length + 1)).readSegment.readMany rest.length rest
      rw [List.isEmpty_iff.mp none] at segments
      obtain ⟨front, parts, -, asked⟩ := (passes_plain (c := '$') (by decide) rest).skip segments
      rw [whole, parts, List.append_nil, asked]
      rfl
  case h_2 => cases parsed

/-! ## The mark of filters -/

/-- Whether a text contains the mark `[?`. -/
def hasMark (cs : List Char) : Bool := Text.occursIn ['[', '?'] cs

/-- Whether the mark `[?` tells of the filters of a path: it stands outside of the strings of its
text, or else in a string just if there is a filter that is written without it. -/
def MarksFilters (text : String) : Prop :=
  hasMark (Mode.code.outside text.toList) = true ∨
    hasMark (Mode.code.inside text.toList) = (Mode.code.outside text.toList).contains '?'

/-- Whether the quotes of a mode are quotes. -/
def Mode.Quotes : Mode → Prop
  | code => True
  | quoted quote | escaped quote => quote = '\'' ∨ quote = '"'

theorem Mode.Quotes.step {m : Mode} (quotes : m.Quotes) (c : Char) : (m.step c).Quotes := by
  cases m with
  | code =>
      unfold Mode.step
      dsimp only
      split
      case isTrue isQuote => exact isQuote
      case isFalse => trivial
  | quoted quote =>
      unfold Mode.step
      dsimp only
      split
      · exact quotes
      · split
        · trivial
        · exact quotes
  | escaped quote => exact quotes

/-- A bracket neither starts a string nor ends one. -/
theorem Mode.Quotes.step_bracket_iff {m : Mode} (quotes : m.Quotes) :
    m.step '[' = code ↔ m = code := by
  cases m with
  | code => decide
  | quoted quote => rcases quotes with rfl | rfl <;> decide
  | escaped quote => simp [Mode.step]

theorem hasMark_cons (c : Char) (cs : List Char) :
    hasMark (c :: cs) = ((c == '[' && cs.head? == some '?') || hasMark cs) := by
  rw [hasMark, Text.occursIn, hasMark]
  congr 1
  cases cs <;> simp [List.isPrefixOf, Bool.beq_comm]

/-- A text that has the mark has its question mark. -/
theorem contains_of_hasMark {cs : List Char} (mark : hasMark cs = true) :
    cs.contains '?' = true := by
  induction cs with
  | nil => cases mark
  | cons c cs ih =>
      rw [hasMark_cons, Bool.or_eq_true, Bool.and_eq_true] at mark
      rw [List.contains_iff_mem]
      rcases mark with ⟨-, next⟩ | behind
      · exact .tail c (List.mem_of_mem_head? (eq_of_beq next))
      · exact .tail c (List.contains_iff_mem.mp (ih behind))

/-- The mark stands in a text if it stands outside of its strings or in one of them. -/
theorem hasMark_eq {m : Mode} (quotes : m.Quotes) (cs : List Char) :
    hasMark cs = (hasMark (m.outside cs) || hasMark (m.inside cs)) := by
  induction cs generalizing m with
  | nil => rfl
  | cons c cs ih =>
      rw [hasMark_cons, Mode.outside, Mode.inside, hasMark_cons, hasMark_cons, ih (quotes.step c)]
      by_cases bracket : c = '['
      · subst bracket
        by_cases code : m = .code
        · have outside : (Mode.code.outside cs).head? = cs.head? := by cases cs <;> rfl
          rw [quotes.step_bracket_iff.mpr code, outside]
          simp [code, Bool.or_assoc]
        · have within := mt quotes.step_bracket_iff.mp code
          have inside : ((m.step '[').inside cs).head? = cs.head? := by
            cases cs with
            | nil => rfl
            | cons d cs => rw [Mode.inside, if_neg within]; rfl
          rw [inside]
          simp [code, Bool.or_left_comm]
      · have outside : ((if m = .code then c else '\'') == '[') = false := by
          split <;> simp [bracket]
        have inside : ((if m = .code then ' ' else c) == '[') = false := by
          split <;> simp [bracket]
        simp [bracket, outside, inside]

/-- **The mark tells of filters only where it is written.** Whether the text of a path contains the
mark `[?` is whether the path has a filter, exactly if the mark stands outside of strings, or there
is no filter and no mark in a string, or both. -/
theorem mentionsFilter_eq_hasFilter_iff {text : String} {p : Path} (parsed : parse? text = some p) :
    mentionsFilter text = p.hasFilter ↔ MarksFilters text := by
  have anywhere : mentionsFilter text = _ := hasMark_eq (m := .code) trivial text.toList
  rw [anywhere, ← contains_outside_of_parse? parsed, MarksFilters]
  cases outside : hasMark (Mode.code.outside text.toList) with
  | true => exact iff_of_true (contains_of_hasMark outside).symm (.inl rfl)
  | false => simp

end QualityGate.Path
