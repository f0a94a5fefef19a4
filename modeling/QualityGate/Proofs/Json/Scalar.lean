import QualityGate.Json.Parser
import QualityGate.Json.Printer
import QualityGate.Proofs.Decimal.Shortest
import QualityGate.Proofs.Expression.Conversion

/-!
# The texts of strings and numbers

Strings are read back as they were (`readQuoted_quote`), and finite numbers are known by their texts
(`eq_of_numberText`): an integer by its digits, and a double by its shortest decimal, which has a
point or an exponent mark. Neither has control characters, since strings escape them.
-/

namespace QualityGate.Json

open Decimal

/-! ## Control characters -/

/-- Whether a text has no control characters. -/
def Printable (text : List Char) : Prop := ∀ c ∈ text, 32 ≤ c.toNat

theorem printable_append {front back : List Char} :
    Printable (front ++ back) ↔ Printable front ∧ Printable back :=
  List.forall_mem_append

theorem printable_cons {c : Char} {back : List Char} :
    Printable (c :: back) ↔ 32 ≤ c.toNat ∧ Printable back :=
  List.forall_mem_cons

/-! ## Strings -/

section Strings

variable {n : Nat} {s t : String} {rest rest' : List Char}

/-- A character is written as an escape of one letter, by its number, or as itself. -/
theorem escapeChar_cases (c : Char) :
    (∃ e, escapeChar c = ['\\', e] ∧ e ≠ 'u' ∧ escapedChar? e = some c ∧ 32 ≤ e.toNat) ∨
    (c.toNat < 32 ∧
      escapeChar c = ['\\', 'u', '0', '0', hexDigit (c.toNat / 16), hexDigit (c.toNat % 16)]) ∨
    (escapeChar c = [c] ∧ c ≠ '"' ∧ c ≠ '\\' ∧ 32 ≤ c.toNat) := by
  have numbered {n : Nat} (number : c.toNat = n) : some (Char.ofNat n) = some c := by
    rw [← number, Char.ofNat_toNat]
  unfold escapeChar
  split_ifs with quote backslash feed ret tab eight twelve control
  · exact .inl ⟨'"', rfl, by decide, congrArg some quote.symm, by decide⟩
  · exact .inl ⟨'\\', rfl, by decide, congrArg some backslash.symm, by decide⟩
  · exact .inl ⟨'n', rfl, by decide, congrArg some feed.symm, by decide⟩
  · exact .inl ⟨'r', rfl, by decide, congrArg some ret.symm, by decide⟩
  · exact .inl ⟨'t', rfl, by decide, congrArg some tab.symm, by decide⟩
  · exact .inl ⟨'b', rfl, by decide, numbered eight, by decide⟩
  · exact .inl ⟨'f', rfl, by decide, numbered twelve, by decide⟩
  · exact .inr (.inl ⟨control, rfl⟩)
  · exact .inr (.inr ⟨rfl, quote, backslash, not_lt.mp control⟩)

/-- A control character is read from the digits of its escape. -/
theorem readUnicode_control (control : n < 32) (rest : List Char) :
    readUnicode ('0' :: '0' :: hexDigit (n / 16) :: hexDigit (n % 16) :: rest) =
      some (Char.ofNat n, rest) := by
  interval_cases n <;> rfl

/-- A character is read from what stands for it in a string. -/
theorem readString_escapeChar (c : Char) (fuel : Nat) (rest : List Char) :
    readString (fuel + 1) (escapeChar c ++ rest) =
      (readString fuel rest).bind fun (more, behind) => some (c :: more, behind) := by
  rcases escapeChar_cases c with
    ⟨e, escape, other, stands, -⟩ | ⟨control, escape⟩ | ⟨itself, quote, backslash, printable⟩
  · rw [escape, List.cons_append, List.cons_append, readString]
    · rw [stands]
      rfl
    · exact other
  · have digits := readUnicode_control control rest
    rw [Char.ofNat_toNat] at digits
    simp only [escape, List.cons_append, List.nil_append, readString, digits]
    rfl
  · have read : (c == '\\' || decide (c.toNat < 32)) = false := by
      rw [Bool.or_eq_false_iff, beq_eq_false_iff_ne, decide_eq_false_iff_not]
      exact ⟨backslash, not_lt.mpr printable⟩
    rw [itself, List.singleton_append, readString]
    · rw [read]
      rfl
    · exact quote
    · intro _ same
      exact absurd same backslash
    · intro _ _ same
      exact absurd same backslash

theorem one_le_length_escapeChar (c : Char) : 1 ≤ (escapeChar c).length := by
  rcases escapeChar_cases c with ⟨_, escape, -⟩ | ⟨-, escape⟩ | ⟨itself, -⟩
  · exact escape ▸ Nat.le_add_left ..
  · exact escape ▸ Nat.le_add_left ..
  · exact itself ▸ Nat.le_refl _

/-- A string is read back as it was, whatever follows it. -/
theorem readQuoted_quote (s : String) (rest : List Char) :
    readQuoted (quote s ++ rest) = some (s, rest) := by
  have read (cs : List Char) (fuel : Nat) (enough : cs.length < fuel) :
      readString fuel (cs.flatMap escapeChar ++ '"' :: rest) = some (cs, rest) := by
    induction cs generalizing fuel with
    | nil =>
        obtain ⟨fuel, rfl⟩ := Nat.exists_eq_add_of_lt enough
        rfl
    | cons c cs ih =>
        obtain ⟨fuel, rfl⟩ := Nat.exists_eq_add_of_lt enough
        rw [List.flatMap_cons, List.append_assoc, readString_escapeChar, ih _ (by simp; omega)]
        rfl
  have length : s.toList.length ≤ (s.toList.flatMap escapeChar).length := by
    rw [List.length_flatMap, ← List.length_map fun c => (escapeChar c).length]
    refine List.length_le_sum_of_one_le _ (List.forall_mem_map.mpr ?_)
    exact fun c _ => one_le_length_escapeChar c
  rw [quote, List.cons_append, List.append_assoc, readQuoted, List.singleton_append,
    read s.toList _ (by rw [List.length_append]; omega)]
  exact congrArg some (congrArg (·, rest) String.ofList_toList)

/-- A string is known by its text, whatever follows it. -/
theorem quote_unique (same : quote s ++ rest = quote t ++ rest') : s = t ∧ rest = rest' := by
  have read := readQuoted_quote s rest
  rw [same, readQuoted_quote] at read
  cases read
  exact ⟨rfl, rfl⟩

theorem printable_escapeChar (c : Char) : Printable (escapeChar c) := by
  have digit {n : Nat} (hex : n < 16) : 32 ≤ (hexDigit n).toNat := by
    interval_cases n <;> decide
  rcases escapeChar_cases c with
    ⟨e, escape, -, -, printable⟩ | ⟨control, escape⟩ | ⟨itself, -, -, own⟩
  · rw [escape]
    exact printable_cons.mpr ⟨by decide, List.forall_mem_singleton.mpr printable⟩
  · have high := digit (n := c.toNat / 16) (by omega)
    have low := digit (n := c.toNat % 16) (by omega)
    rw [escape]
    simp [Printable, high, low]
  · rw [itself]
    exact List.forall_mem_singleton.mpr own

theorem printable_quote (s : String) : Printable (quote s) := by
  refine printable_cons.mpr ⟨by decide, printable_append.mpr ⟨?_, by simp [Printable]⟩⟩
  intro c member
  obtain ⟨d, -, among⟩ := List.mem_flatMap.mp member
  exact printable_escapeChar d c among

end Strings

/-! ## Numbers -/

section Numbers

variable {m n : JsonNumber} {c : Char}

theorem numberText_double {f : Float} (finite : (JsonNumber.double f).IsFinite) :
    numberText (.double f) = signOf f ++ Layout.json.written (decimalOf f) := by
  rw [← toList_render_json finite.1 finite.2, numberText, finite.1, finite.2]
  rfl

theorem integerText_eq (i : Int) :
    integerText i = (if i < 0 then ['-'] else []) ++ digitsOf i.natAbs := by
  rw [integerText]
  split <;> rfl

/-- An integer is read back as it was. -/
theorem exponentOf_integerText (i : Int) : exponentOf (integerText i) = i := by
  rw [integerText_eq]
  exact exponentOf_signed false i

theorem of_mem_sign {p : Prop} [Decidable p] (member : c ∈ if p then ['-'] else []) : c = '-' := by
  split at member
  · exact List.mem_singleton.mp member
  · cases member

theorem of_mem_integerText {i : Int} (member : c ∈ integerText i) :
    c.isDigit = true ∨ c = '-' := by
  rw [integerText_eq, List.mem_append] at member
  rcases member with sign | digit
  · exact .inr (of_mem_sign sign)
  · exact .inl (isDigit_of_mem_digitsOf digit)

/-- The text of a number has digits and the signs and marks of numbers only. -/
theorem isNumeral_of_mem_numberText (finite : n.IsFinite) (member : c ∈ numberText n) :
    IsNumeral c := by
  cases n with
  | integer i =>
      rcases of_mem_integerText member with digit | rfl
      · exact .inl digit
      · exact .inr List.mem_cons_self
  | double f =>
      rw [numberText_double finite, List.mem_append] at member
      rcases member with sign | decimal
      · rw [of_mem_sign sign]
        exact .inr List.mem_cons_self
      · exact isNumeral_of_mem_written decimal

/-- The text of a number starts with a digit or a sign. -/
theorem exists_start_numberText (finite : n.IsFinite) :
    ∃ c cs, numberText n = c :: cs ∧ (c.isDigit = true ∨ c = '-') := by
  have behindSign {p : Prop} [Decidable p] {text : List Char}
      (digit : ∃ c cs, text = c :: cs ∧ c.isDigit = true) :
      ∃ c cs, (if p then ['-'] else []) ++ text = c :: cs ∧ (c.isDigit = true ∨ c = '-') := by
    split
    · exact ⟨'-', text, rfl, .inr rfl⟩
    · obtain ⟨c, cs, starts, digit⟩ := digit
      exact ⟨c, cs, starts, .inl digit⟩
  cases n with
  | integer i =>
      obtain ⟨c, cs, digits⟩ : ∃ c cs, digitsOf i.natAbs = c :: cs :=
        List.exists_cons_of_ne_nil Nat.toDigits_ne_nil
      have digit : c.isDigit = true := isDigit_of_mem_digitsOf (digits ▸ List.mem_cons_self)
      rw [numberText, integerText_eq]
      exact behindSign ⟨c, cs, digits, digit⟩
  | double f =>
      rw [numberText_double finite]
      exact behindSign (exists_digit_written .json _)

/-- A double is not written as an integer is: it has a point or an exponent mark. -/
theorem integerText_ne_double {i : Int} {f : Float} (finite : (JsonNumber.double f).IsFinite) :
    integerText i ≠ numberText (.double f) := by
  intro same
  have unmarked {c : Char} (mark : c ∈ Layout.json.written (decimalOf f)) :
      c.isDigit = true ∨ c = '-' := by
    refine of_mem_integerText (i := i) ?_
    rw [same, numberText_double finite]
    exact List.mem_append_right _ mark
  rcases mark_mem_written (decimalOf f) with point | exponent
  · exact absurd (unmarked point) (by decide)
  · exact absurd (unmarked exponent) (by decide)

/-- A number is known by its text. -/
theorem eq_of_numberText (finite : m.IsFinite) (finite' : n.IsFinite)
    (same : numberText m = numberText n) : m = n := by
  cases m with
  | integer i =>
      cases n with
      | integer j =>
          have read := congrArg exponentOf same
          rw [numberText, numberText, exponentOf_integerText, exponentOf_integerText] at read
          rw [read]
      | double g => exact absurd same (integerText_ne_double finite')
  | double f =>
      cases n with
      | integer j => exact absurd same.symm (integerText_ne_double finite)
      | double g =>
          rw [numberText_double finite, numberText_double finite',
            ← toList_render_json finite.1 finite.2,
            ← toList_render_json finite'.1 finite'.2] at same
          rw [eq_of_render_json finite.1 finite.2 finite'.1 finite'.2 (String.toList_inj.mp same)]

theorem printable_of_isNumeral (numeral : IsNumeral c) : 32 ≤ c.toNat := by
  rcases numeral with digit | sign
  · exact le_trans (by decide) (Char.isDigit_iff_toNat.mp digit).1
  · fin_cases sign <;> decide

/-- The text of a number has no control characters, also if it has no finite value. -/
theorem printable_numberText (n : JsonNumber) : Printable (numberText n) := by
  by_cases finite : n.IsFinite
  · exact fun c member => printable_of_isNumeral (isNumeral_of_mem_numberText finite member)
  · cases n with
    | integer i => exact absurd trivial finite
    | double f =>
        have odd : (f.isNaN || f.isInf) = true := by
          by_contra even
          rw [Bool.not_eq_true, Bool.or_eq_false_iff] at even
          exact finite even
        rw [numberText, if_pos odd]
        simp [Printable]

end Numbers

end QualityGate.Json
