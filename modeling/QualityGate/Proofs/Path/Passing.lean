import QualityGate.Path.Selection
import QualityGate.Proofs.Text.Character

/-!
# Strings in the text of a path

A reader of paths stands in a string or outside of strings (`Mode`). What the readers of strings,
names and numbers read ends outside of strings, and no question mark stands outside of strings in it
(`Covers`). The readers of longer forms are put together from these.
-/

namespace QualityGate.Path

open Json (skipBlanks)
open Text (isDigit)

/-! ## Modes -/

/-- Where a reader of a path stands. -/
inductive Mode where
  /-- Outside of strings. -/
  | code
  /-- In a string. -/
  | quoted (quote : Char)
  /-- In a string, after a backslash. -/
  | escaped (quote : Char)
deriving DecidableEq

namespace Mode

/-- The mode after one more character. -/
def step : Mode → Char → Mode
  | code, c => if c = '\'' ∨ c = '"' then quoted c else code
  | quoted quote, c => if c = '\\' then escaped quote else if c = quote then code else quoted quote
  | escaped quote, _ => quoted quote

/-- The mode after a text. -/
def run (m : Mode) (cs : List Char) : Mode := cs.foldl step m

/-- The text with quotes in place of its strings. -/
def outside : Mode → List Char → List Char
  | _, [] => []
  | m, c :: cs => (if m = code then c else '\'') :: outside (m.step c) cs

/-- The text with blanks in place of what stands outside of its strings. -/
def inside : Mode → List Char → List Char
  | _, [] => []
  | m, c :: cs => (if m = code then ' ' else c) :: inside (m.step c) cs

theorem outside_append (m : Mode) (a b : List Char) :
    m.outside (a ++ b) = m.outside a ++ (m.run a).outside b := by
  induction a generalizing m with
  | nil => rfl
  | cons c a ih => rw [List.cons_append, outside, ih, outside, List.cons_append, run, run,
      List.foldl_cons]

end Mode

/-! ## What is read -/

/-- Whether a text is read up to the rest, from one mode to another, and whether it has a question
mark outside of strings. -/
def Passes (m m' : Mode) (asked : Bool) (cs rest : List Char) : Prop :=
  ∃ front, cs = front ++ rest ∧ m.run front = m' ∧ (m.outside front).contains '?' = asked

/-- Whether a character neither starts a string nor a filter. -/
def Plain (c : Char) : Prop := c ∉ ['\'', '"', '?']

instance : DecidablePred Plain := fun c => inferInstanceAs (Decidable (c ∉ ['\'', '"', '?']))

section Passes

variable {m m' m'' : Mode} {a b : Bool} {c : Char} {cs ds es : List Char} {p : Char → Bool}

theorem Passes.refl (m : Mode) (cs : List Char) : Passes m m false cs cs := ⟨[], rfl, rfl, rfl⟩

theorem Passes.trans (first : Passes m m' a cs ds) (second : Passes m' m'' b ds es) :
    Passes m m'' (a || b) cs es := by
  obtain ⟨front, rfl, rfl, rfl⟩ := first
  obtain ⟨front', rfl, rfl, rfl⟩ := second
  refine ⟨front ++ front', by rw [List.append_assoc], List.foldl_append, ?_⟩
  rw [Mode.outside_append, List.contains_append]

theorem Passes.skip (first : Passes m m' false cs ds) (second : Passes m' m'' b ds es) :
    Passes m m'' b cs es := first.trans second

theorem Passes.finish (first : Passes m m' a cs ds) (second : Passes m' m'' false ds es) :
    Passes m m'' a cs es := by
  have whole := first.trans second
  rwa [Bool.or_false] at whole

theorem passes_quoted (within : m ≠ .code) (c : Char) (cs : List Char) :
    Passes m (m.step c) false (c :: cs) cs :=
  ⟨[c], rfl, rfl, by rw [Mode.outside, if_neg within]; rfl⟩

theorem passes_question (cs : List Char) : Passes .code .code true ('?' :: cs) cs :=
  ⟨['?'], rfl, rfl, rfl⟩

theorem passes_plain (plain : Plain c) (cs : List Char) :
    Passes .code .code false (c :: cs) cs := by
  simp only [Plain, List.mem_cons, List.not_mem_nil, or_false, not_or] at plain
  have stays : Mode.code.step c = .code := by simp [Mode.step, plain]
  refine ⟨[c], rfl, stays, ?_⟩
  simpa [Mode.outside] using Ne.symm plain.2.2

theorem Plain.of_all (holds : p c = true) (none : ['\'', '"', '?'].all (! p ·) = true) :
    Plain c := by
  intro member
  have other := List.all_eq_true.mp none c member
  rw [holds] at other
  cases other

theorem passes_dropWhile (none : ['\'', '"', '?'].all (! p ·) = true) (cs : List Char) :
    Passes .code .code false cs (cs.dropWhile p) := by
  induction cs with
  | nil => exact .refl _ _
  | cons c cs ih =>
      by_cases holds : p c = true
      · rw [List.dropWhile_cons_of_pos holds]
        exact (passes_plain (.of_all holds none) cs).skip ih
      · rw [List.dropWhile_cons_of_neg holds]
        exact .refl _ _

theorem passes_skipBlanks (cs : List Char) : Passes .code .code false cs (skipBlanks cs) :=
  passes_dropWhile (by decide) cs

theorem passes_drop_of_isPrefixOf {word : List Char} (starts : word.isPrefixOf cs = true)
    (plain : word.all (fun c => decide (Plain c)) = true) :
    Passes .code .code false cs (cs.drop word.length) := by
  obtain ⟨rest, rfl⟩ := List.isPrefixOf_iff_prefix.mp starts
  rw [List.drop_left]
  clear starts
  induction word with
  | nil => exact .refl _ _
  | cons c word ih =>
      rw [List.all_cons, Bool.and_eq_true] at plain
      exact (passes_plain (of_decide_eq_true plain.1) _).skip (ih plain.2)

end Passes

/-- Whether a reader ends outside of strings, and reads the question marks that it should. -/
def Covers {α : Type} (reader : Reader α) (asked : α → Bool) : Prop :=
  ∀ cs x rest, reader cs = some (x, rest) → Passes .code .code (asked x) cs rest

/-! ## Strings -/

section Strings

variable {quote c : Char} {cs rest : List Char} {v : Nat}

theorem passes_of_stays {front : List Char}
    (stays : ∀ c ∈ front, (Mode.quoted quote).step c = .quoted quote) (rest : List Char) :
    Passes (.quoted quote) (.quoted quote) false (front ++ rest) rest := by
  induction front with
  | nil => exact .refl _ _
  | cons c front ih =>
      obtain ⟨first, stays⟩ := List.forall_mem_cons.mp stays
      have here := passes_quoted (m := .quoted quote) nofun c (front ++ rest)
      rw [first] at here
      exact here.skip (ih stays)

theorem step_quoted (noBackslash : c ≠ '\\') (noQuote : c ≠ quote) :
    (Mode.quoted quote).step c = .quoted quote := by
  simp [Mode.step, noBackslash, noQuote]

/-- What stands behind a backslash neither ends a string nor starts another escape. -/
theorem passes_escape (quote c : Char) (cs : List Char) :
    Passes (.quoted quote) (.quoted quote) false ('\\' :: c :: cs) cs := by
  have backslash := passes_quoted (m := .quoted quote) nofun '\\' (c :: cs)
  have step : (Mode.quoted quote).step '\\' = .escaped quote := by simp [Mode.step]
  rw [step] at backslash
  exact backslash.skip (passes_quoted (m := .escaped quote) nofun c cs)

/-- Digits do not end a string. -/
theorem passes_takeHex {n : Nat} (isQuote : quote = '\'' ∨ quote = '"')
    (read : Text.takeHex n cs = some (v, rest)) :
    Passes (.quoted quote) (.quoted quote) false cs rest := by
  obtain ⟨-, read⟩ := Option.ite_none_right_eq_some.mp read
  obtain ⟨w, value, same⟩ := Option.map_eq_some_iff.mp read
  cases same
  have digits := (Text.isSome_of_digitsValue? value).2
  have stays : ∀ c ∈ cs.take n, (Mode.quoted quote).step c = .quoted quote := by
    intro c member
    have digit := digits c member
    refine step_quoted ?_ ?_
    · rintro rfl
      cases digit
    · rintro rfl
      rcases isQuote with rfl | rfl <;> cases digit
  have passes := passes_of_stays stays (cs.drop n)
  rwa [List.take_append_drop] at passes

theorem passes_readUnicode (isQuote : quote = '\'' ∨ quote = '"')
    (read : readUnicode cs = some (c, rest)) :
    Passes (.quoted quote) (.quoted quote) false cs rest := by
  unfold readUnicode at read
  split at read
  case h_1 =>
      obtain ⟨⟨v, behind⟩, digits, read⟩ := Option.bind_eq_some_iff.mp read
      obtain ⟨d, -, read⟩ := Option.bind_eq_some_iff.mp read
      cases read
      exact passes_takeHex isQuote digits
  case h_2 | h_3 => cases read
  case h_4 =>
      obtain ⟨⟨high, behind⟩, digits, read⟩ := Option.bind_eq_some_iff.mp read
      have first := passes_takeHex isQuote digits
      dsimp only at read
      split at read
      case isTrue =>
          split at read
          case h_1 more =>
              obtain ⟨⟨low, behind'⟩, digits', read⟩ := Option.bind_eq_some_iff.mp read
              obtain ⟨-, read⟩ := Option.ite_none_right_eq_some.mp read
              obtain ⟨d, -, read⟩ := Option.bind_eq_some_iff.mp read
              cases read
              exact first.skip ((passes_escape quote 'u' more).skip
                (passes_takeHex isQuote digits'))
          case h_2 => cases read
      case isFalse =>
          obtain ⟨d, -, read⟩ := Option.bind_eq_some_iff.mp read
          cases read
          exact first

theorem passes_readStringRest {fuel : Nat} {s : List Char} (isQuote : quote = '\'' ∨ quote = '"')
    (read : readStringRest quote fuel cs = some (s, rest)) :
    Passes (.quoted quote) .code false cs rest := by
  induction fuel generalizing cs s with
  | zero => cases read
  | succ fuel ih =>
      unfold readStringRest at read
      split at read
      case h_1 => cases read
      case h_2 more =>
          obtain ⟨⟨d, behind⟩, escape, read⟩ := Option.bind_eq_some_iff.mp read
          obtain ⟨⟨others, behind'⟩, string, read⟩ := Option.bind_eq_some_iff.mp read
          cases read
          exact (passes_escape quote 'u' more).skip
            ((passes_readUnicode isQuote escape).skip (ih string))
      case h_3 e more _ =>
          have behind {d? : Option Char} (read : (d?.bind fun d =>
              (readStringRest quote fuel more).bind fun parts => some (d :: parts.1, parts.2)) =
                some (s, rest)) : Passes (.quoted quote) .code false ('\\' :: e :: more) rest := by
            obtain ⟨d, -, read⟩ := Option.bind_eq_some_iff.mp read
            obtain ⟨⟨others, behind⟩, string, read⟩ := Option.bind_eq_some_iff.mp read
            cases read
            exact (passes_escape quote e more).skip (ih string)
          dsimp only at read
          split at read
          · exact behind read
          split at read
          · cases read
          · exact behind read
      case h_4 d more _ _ =>
          have here := passes_quoted (m := .quoted quote) nofun d more
          split at read
          case isTrue close =>
              cases read
              have plain : quote ≠ '\\' := by rcases isQuote with rfl | rfl <;> decide
              have step : (Mode.quoted quote).step quote = .code := by simp [Mode.step, plain]
              rw [close, step] at here
              rw [close]
              exact here
          case isFalse noQuote =>
              split at read
              case isTrue => cases read
              case isFalse shown =>
                  obtain ⟨⟨others, behind⟩, string, read⟩ := Option.bind_eq_some_iff.mp read
                  cases read
                  have noBackslash : d ≠ '\\' := by
                    rintro rfl
                    exact shown rfl
                  rw [step_quoted noBackslash noQuote] at here
                  exact here.skip (ih string)

theorem covers_readString : Covers readString fun _ => false := by
  intro cs s rest read
  cases cs with
  | nil => cases read
  | cons c cs =>
      obtain ⟨opens, read⟩ := Option.ite_none_right_eq_some.mp read
      obtain ⟨⟨chars, behind⟩, string, same⟩ := Option.map_eq_some_iff.mp read
      cases same
      have isQuote : c = '\'' ∨ c = '"' := by simpa using opens
      have step : Mode.code.step c = .quoted c := by simp [Mode.step, isQuote]
      have quote : Passes .code (.quoted c) false (c :: cs) cs := by
        refine ⟨[c], rfl, step, ?_⟩
        rcases isQuote with rfl | rfl <;> rfl
      exact quote.skip (passes_readStringRest isQuote string)

end Strings

/-! ## Names and numbers -/

theorem covers_readName : Covers readName fun _ => false := by
  intro cs s rest read
  cases cs with
  | nil => cases read
  | cons c cs =>
      obtain ⟨starts, read⟩ := Option.ite_none_right_eq_some.mp read
      cases read
      exact (passes_plain (.of_all starts (by decide)) cs).skip (passes_dropWhile (by decide) cs)

/-- An optional minus sign is read. -/
theorem passes_minus (cs : List Char) :
    Passes .code .code false cs (match cs with
      | '-' :: rest => (true, rest)
      | rest => (false, rest)).2 := by
  split
  · exact passes_plain (by decide) _
  · exact .refl _ _

theorem covers_readInteger : Covers readInteger fun _ => false := by
  intro cs i rest read
  obtain ⟨-, read⟩ := Option.ite_none_left_eq_some.mp read
  obtain ⟨-, read⟩ := Option.ite_none_left_eq_some.mp read
  cases read
  exact (passes_minus cs).skip (passes_dropWhile (by decide) _)

theorem passes_readFraction {cs rest : List Char} {fraction : Option (List Char)}
    (read : Json.readFraction cs = some (fraction, rest)) :
    Passes .code .code false cs rest := by
  unfold Json.readFraction at read
  split at read
  case h_1 more =>
      obtain ⟨-, read⟩ := Option.ite_none_left_eq_some.mp read
      cases read
      exact (passes_plain (by decide) more).skip (passes_dropWhile (by decide) more)
  case h_2 =>
      cases read
      exact .refl _ _

theorem passes_readExponent {cs rest : List Char} {exponent : Option Int}
    (read : Json.readExponent cs = some (exponent, rest)) :
    Passes .code .code false cs rest := by
  unfold Json.readExponent at read
  split at read
  case h_1 c more =>
      split at read
      case isTrue mark =>
          have plain : Plain c := .of_all (p := fun c => c == 'e' || c == 'E') mark (by decide)
          obtain ⟨-, read⟩ := Option.ite_none_left_eq_some.mp read
          cases read
          refine (passes_plain plain more).skip (.skip ?_ (passes_dropWhile (by decide) _))
          split
          · exact passes_plain (by decide) _
          · exact passes_plain (by decide) _
          · exact .refl _ _
      case isFalse =>
          cases read
          exact .refl _ _
  case h_2 =>
      cases read
      exact .refl _ _

theorem covers_readNumber : Covers Json.readNumber fun _ => false := by
  intro cs n rest read
  obtain ⟨-, read⟩ := Option.ite_none_left_eq_some.mp read
  obtain ⟨⟨fraction, behind⟩, point, read⟩ := Option.bind_eq_some_iff.mp read
  obtain ⟨⟨exponent, behind'⟩, mark, read⟩ := Option.bind_eq_some_iff.mp read
  obtain ⟨m, -, read⟩ := Option.bind_eq_some_iff.mp read
  cases read
  have whole := (passes_minus cs).skip (passes_dropWhile (p := isDigit) (by decide) _)
  exact whole.skip ((passes_readFraction point).skip (passes_readExponent mark))

end QualityGate.Path
