import Mathlib.Algebra.Field.Rat
import Mathlib.Data.List.TakeWhile
import Mathlib.Tactic.NormNum
import QualityGate.Decimal.Layout

/-!
# The texts of decimals

Whatever its layout, the text of a decimal says what its value is: `valueOf` reads it back
(`valueOf_written`). It has digits and the signs of numbers only (`isNumeral_of_mem_written`), and
in JSON texts it shows by a point or an exponent mark that it is not a whole number
(`mark_mem_written`).
-/

namespace QualityGate.Decimal

/-- The number that a decimal stands for. -/
def Scaled.value (d : Scaled) : ℚ := d.digits * 10 ^ d.exponent

/-- The decimal exponent of the first digit of a decimal. -/
def Scaled.leading (d : Scaled) : Int := d.exponent + ((digitsOf d.digits).length : Int) - 1

/-- The text of a decimal in a layout. -/
def Layout.written (l : Layout) (d : Scaled) : List Char :=
  if l.plain d.leading then l.withPoint (digitsOf d.digits) d.leading
  else l.withExponent (digitsOf d.digits) d.leading

/-! ## The three forms with a plain point -/

section Forms

variable {l : Layout} {digits : List Char} {leading : Int}

theorem withPoint_of_neg (negative : leading < 0) : l.withPoint digits leading =
    '0' :: '.' :: (List.replicate ((-leading).toNat - 1) '0' ++ digits) :=
  if_pos negative

theorem withPoint_of_short (whole : ¬ leading < 0) (short : digits.length ≤ leading.toNat + 1) :
    l.withPoint digits leading =
      digits ++ List.replicate (leading.toNat + 1 - digits.length) '0'
        ++ if l.keepPoint then ['.', '0'] else [] := by
  rw [Layout.withPoint, if_neg whole]
  exact if_pos short

theorem withPoint_of_long (whole : ¬ leading < 0) (long : ¬ digits.length ≤ leading.toNat + 1) :
    l.withPoint digits leading =
      digits.take (leading.toNat + 1) ++ '.' :: digits.drop (leading.toNat + 1) := by
  rw [Layout.withPoint, if_neg whole]
  exact if_neg long

end Forms

/-! ## Characters -/

/-- Whether a character is a digit, or one of the signs and marks of numbers. -/
def IsNumeral (c : Char) : Prop := c.isDigit = true ∨ c ∈ ['-', '+', '.', 'e']

section Characters

variable {c : Char} {l : Layout} {digits : List Char} {leading : Int} {n : Nat} {d : Scaled}

theorem isDigit_of_mem_digitsOf (member : c ∈ digitsOf n) : c.isDigit = true :=
  Nat.isDigit_of_mem_toDigits (by decide) (by decide) member

theorem isDigit_of_mem_zeros {k : Nat} (member : c ∈ List.replicate k '0') : c.isDigit = true := by
  rw [List.eq_of_mem_replicate member]
  rfl

theorem of_mem_withPoint (known : ∀ d ∈ digits, d.isDigit = true)
    (member : c ∈ l.withPoint digits leading) : c.isDigit = true ∨ c = '.' := by
  by_cases negative : leading < 0
  · rw [withPoint_of_neg negative] at member
    simp only [List.mem_cons, List.mem_append] at member
    rcases member with rfl | rfl | among | among
    · exact .inl rfl
    · exact .inr rfl
    · exact .inl (isDigit_of_mem_zeros among)
    · exact .inl (known c among)
  by_cases short : digits.length ≤ leading.toNat + 1
  · rw [withPoint_of_short negative short, List.mem_append, List.mem_append] at member
    rcases member with (among | among) | behind
    · exact .inl (known c among)
    · exact .inl (isDigit_of_mem_zeros among)
    · split at behind
      · rcases List.mem_cons.mp behind with rfl | behind
        · exact .inr rfl
        · rw [List.mem_singleton.mp behind]
          exact .inl rfl
      · cases behind
  · rw [withPoint_of_long negative short, List.mem_append, List.mem_cons] at member
    rcases member with among | rfl | among
    · exact .inl (known c (List.mem_of_mem_take among))
    · exact .inr rfl
    · exact .inl (known c (List.mem_of_mem_drop among))

theorem isNumeral_of_mem_withExponent (known : ∀ d ∈ digits, d.isDigit = true)
    (member : c ∈ l.withExponent digits leading) : IsNumeral c := by
  rw [Layout.withExponent, List.mem_append, List.mem_append, List.mem_cons,
    List.mem_append] at member
  rcases member with (among | fraction) | rfl | sign | among
  · exact .inl (known c (List.mem_of_mem_take among))
  · split at fraction
    · cases fraction
    · rcases List.mem_cons.mp fraction with rfl | among
      · exact .inr (by decide)
      · exact .inl (known c (List.mem_of_mem_drop among))
  · exact .inr (by decide)
  · have signs : c ∈ ['-', '+'] := by
      split at sign
      · exact List.mem_cons.mpr (.inl (List.mem_singleton.mp sign))
      · split at sign
        · exact List.mem_cons_of_mem _ sign
        · cases sign
    exact .inr (List.mem_append_left ['.', 'e'] signs)
  · exact .inl (isDigit_of_mem_digitsOf among)

/-- The text of a decimal has digits and the signs and marks of numbers only. -/
theorem isNumeral_of_mem_written (member : c ∈ l.written d) : IsNumeral c := by
  rw [Layout.written] at member
  split at member
  · rcases of_mem_withPoint (fun _ => isDigit_of_mem_digitsOf) member with digit | rfl
    · exact .inl digit
    · exact .inr (by decide)
  · exact isNumeral_of_mem_withExponent (fun _ => isDigit_of_mem_digitsOf) member

/-- The text of a decimal starts with a digit. -/
theorem exists_digit_written (l : Layout) (d : Scaled) :
    ∃ c cs, l.written d = c :: cs ∧ c.isDigit = true := by
  obtain ⟨c, cs, digits⟩ : ∃ c cs, digitsOf d.digits = c :: cs :=
    List.exists_cons_of_ne_nil Nat.toDigits_ne_nil
  have digit : c.isDigit = true :=
    isDigit_of_mem_digitsOf (n := d.digits) (digits ▸ List.mem_cons_self)
  rw [Layout.written, digits]
  split
  · by_cases negative : d.leading < 0
    · exact ⟨'0', _, withPoint_of_neg negative, rfl⟩
    by_cases short : (c :: cs).length ≤ d.leading.toNat + 1
    · exact ⟨c, _, withPoint_of_short negative short, digit⟩
    · exact ⟨c, _, withPoint_of_long negative short, digit⟩
  · exact ⟨c, _, rfl, digit⟩

/-- In JSON texts a decimal has a point or an exponent mark. -/
theorem mark_mem_written (d : Scaled) :
    '.' ∈ Layout.json.written d ∨ 'e' ∈ Layout.json.written d := by
  rw [Layout.written]
  split
  · left
    by_cases negative : d.leading < 0
    · rw [withPoint_of_neg negative]
      exact .tail _ (.head _)
    by_cases short : (digitsOf d.digits).length ≤ d.leading.toNat + 1
    · rw [withPoint_of_short negative short]
      exact List.mem_append_right _ (.head _)
    · rw [withPoint_of_long negative short]
      exact List.mem_append_right _ (.head _)
  · exact .inr (List.mem_append_right _ (.head _))

end Characters

/-! ## Values -/

/-- The number in digits with at most one point among them. -/
def pointed (text : List Char) : ℚ :=
  Nat.ofDigitChars 10 (text.filter (·.isDigit)) 0
    / 10 ^ ((text.dropWhile (·.isDigit)).drop 1).length

/-- The number behind an exponent mark. -/
def exponentOf : List Char → Int
  | '-' :: digits => -Nat.ofDigitChars 10 digits 0
  | '+' :: digits => Nat.ofDigitChars 10 digits 0
  | digits => Nat.ofDigitChars 10 digits 0

/-- The number in the text of a decimal. -/
def valueOf (text : List Char) : ℚ :=
  pointed (text.takeWhile (· != 'e')) * 10 ^ exponentOf ((text.dropWhile (· != 'e')).drop 1)

section Values

variable {l : Layout} {digits whole fraction : List Char} {leading : Int}

theorem pointed_whole (known : ∀ d ∈ whole, d.isDigit = true) :
    pointed whole = Nat.ofDigitChars 10 whole 0 := by
  rw [pointed, List.filter_eq_self.mpr known, List.dropWhile_eq_nil_iff.mpr known]
  simp

theorem pointed_fraction (known : ∀ d ∈ whole, d.isDigit = true)
    (known' : ∀ d ∈ fraction, d.isDigit = true) :
    pointed (whole ++ '.' :: fraction) =
      Nat.ofDigitChars 10 (whole ++ fraction) 0 * 10 ^ (-(fraction.length : Int)) := by
  have behind : (whole ++ '.' :: fraction).dropWhile (·.isDigit) = '.' :: fraction := by
    rw [List.dropWhile_append_of_pos known]
    rfl
  rw [pointed, behind, List.filter_append, List.filter_eq_self.mpr known, List.filter_cons_of_neg
    (by decide), List.filter_eq_self.mpr known', zpow_neg, zpow_natCast, div_eq_mul_inv]
  rfl

/-- Digits with zeros behind them stand for their number, scaled. -/
theorem ofDigitChars_zeros (digits : List Char) (k : Nat) :
    (Nat.ofDigitChars 10 (digits ++ List.replicate k '0') 0 : ℚ) =
      Nat.ofDigitChars 10 digits 0 * 10 ^ (k : Int) := by
  rw [Nat.ofDigitChars_append, Nat.ofDigitChars_replicate_zero, Nat.cast_mul, Nat.cast_pow,
    zpow_natCast, mul_comm]
  rfl

/-- Digits with a plain point stand for their number, scaled. -/
theorem pointed_withPoint (known : ∀ d ∈ digits, d.isDigit = true) :
    pointed (l.withPoint digits leading) =
      Nat.ofDigitChars 10 digits 0 * 10 ^ (leading + 1 - digits.length) := by
  by_cases negative : leading < 0
  · have text (cs : List Char) : '0' :: '.' :: cs = ['0'] ++ '.' :: cs := rfl
    have known' : ∀ d ∈ List.replicate ((-leading).toNat - 1) '0' ++ digits, d.isDigit = true :=
      List.forall_mem_append.mpr ⟨fun _ => isDigit_of_mem_zeros, known⟩
    have number : Nat.ofDigitChars 10
        (['0'] ++ (List.replicate ((-leading).toNat - 1) '0' ++ digits)) 0 =
          Nat.ofDigitChars 10 digits 0 := by
      rw [List.singleton_append, Nat.ofDigitChars_cons, Nat.ofDigitChars_append,
        Nat.ofDigitChars_replicate_zero]
      rfl
    rw [withPoint_of_neg negative, text,
      pointed_fraction (List.forall_mem_singleton.mpr rfl) known', number, List.length_append,
      List.length_replicate]
    congr 2
    omega
  by_cases short : digits.length ≤ leading.toNat + 1
  · have known' : ∀ d ∈ digits ++ List.replicate (leading.toNat + 1 - digits.length) '0',
        d.isDigit = true := List.forall_mem_append.mpr ⟨known, fun _ => isDigit_of_mem_zeros⟩
    have places : ((leading.toNat + 1 - digits.length : Nat) : Int) =
        leading + 1 - digits.length := by omega
    rw [withPoint_of_short negative short]
    split
    · rw [pointed_fraction known' (List.forall_mem_singleton.mpr rfl), List.append_assoc]
      have zeros : List.replicate (leading.toNat + 1 - digits.length) '0' ++ ['0'] =
          List.replicate (leading.toNat + 1 - digits.length + 1) '0' := by
        rw [List.replicate_succ']
      rw [zeros, ofDigitChars_zeros, mul_assoc, ← zpow_add₀ (by norm_num)]
      congr 2
      simp only [List.length_singleton]
      omega
    · rw [List.append_nil, pointed_whole known', ofDigitChars_zeros, places]
  · have front := fun d (member : d ∈ digits.take (leading.toNat + 1)) =>
      known d (List.mem_of_mem_take member)
    have back := fun d (member : d ∈ digits.drop (leading.toNat + 1)) =>
      known d (List.mem_of_mem_drop member)
    rw [withPoint_of_long negative short, pointed_fraction front back, List.take_append_drop,
      List.length_drop]
    congr 2
    omega

theorem exponentOf_digits (known : ∀ d ∈ digits, d.isDigit = true) :
    exponentOf digits = Nat.ofDigitChars 10 digits 0 := by
  unfold exponentOf
  split
  · exact absurd (known _ List.mem_cons_self) (by decide)
  · exact absurd (known _ List.mem_cons_self) (by decide)
  · rfl

/-- Up to the exponent mark and behind it a text is read in two ways. -/
theorem valueOf_mark (front : ∀ c ∈ whole, c ≠ 'e') (back : List Char) :
    valueOf (whole ++ 'e' :: back) = pointed whole * 10 ^ exponentOf back := by
  have passes : ∀ c ∈ whole, (c != 'e') = true := fun c member => by simpa using front c member
  rw [valueOf, List.takeWhile_append_of_pos passes, List.dropWhile_append_of_pos passes]
  simp

theorem valueOf_pointed (front : ∀ c ∈ whole, c ≠ 'e') : valueOf whole = pointed whole := by
  have passes : ∀ c ∈ whole, (c != 'e') = true := fun c member => by simpa using front c member
  rw [valueOf, List.takeWhile_eq_self_iff.mpr passes, List.dropWhile_eq_nil_iff.mpr passes]
  simp [exponentOf, Nat.ofDigitChars]

/-- The exponent is read from its sign and its digits. -/
theorem exponentOf_signed (plus : Bool) (e : Int) :
    exponentOf ((if e < 0 then ['-'] else if plus then ['+'] else []) ++ digitsOf e.natAbs) =
      e := by
  have digits : Nat.ofDigitChars 10 (digitsOf e.natAbs) 0 = e.natAbs :=
    Nat.ofDigitChars_ten_toDigits
  split
  · rw [List.singleton_append, exponentOf, digits]
    omega
  · have whole : ((Nat.ofDigitChars 10 (digitsOf e.natAbs) 0 : Nat) : Int) = e := by
      rw [digits]
      omega
    split
    · exact whole
    · exact (exponentOf_digits fun _ => isDigit_of_mem_digitsOf).trans whole

theorem ne_mark_of_isDigit {c : Char} (digit : c.isDigit = true) : c ≠ 'e' := by
  rintro rfl
  exact absurd digit (by decide)

/-- Digits with an exponent mark stand for their number, scaled. -/
theorem valueOf_withExponent (known : ∀ d ∈ digits, d.isDigit = true) (some : digits ≠ []) :
    valueOf (l.withExponent digits leading) =
      Nat.ofDigitChars 10 digits 0 * 10 ^ (leading + 1 - digits.length) := by
  obtain ⟨first, rest, rfl⟩ := List.exists_cons_of_ne_nil some
  obtain ⟨digit, known⟩ := List.forall_mem_cons.mp known
  -- What stands before the mark is one digit, or one digit, a point and more digits.
  have scaled (front : List Char) (unmarked : ∀ c ∈ front, c ≠ 'e')
      (value : pointed front =
        Nat.ofDigitChars 10 (first :: rest) 0 * 10 ^ (-(rest.length : Int))) :
      valueOf (front ++ 'e' :: ((if leading < 0 then ['-'] else if l.plusSign then ['+'] else [])
        ++ digitsOf leading.natAbs)) =
        Nat.ofDigitChars 10 (first :: rest) 0 * 10 ^ (leading + 1 - (first :: rest).length) := by
    rw [valueOf_mark unmarked, value, exponentOf_signed, mul_assoc, ← zpow_add₀ (by norm_num)]
    congr 2
    rw [List.length_cons]
    omega
  cases rest with
  | nil =>
      refine scaled [first] (List.forall_mem_singleton.mpr (ne_mark_of_isDigit digit)) ?_
      rw [pointed_whole (List.forall_mem_singleton.mpr digit)]
      simp
  | cons second rest =>
      refine scaled (first :: '.' :: second :: rest) ?_ ?_
      · refine List.forall_mem_cons.mpr ⟨ne_mark_of_isDigit digit, List.forall_mem_cons.mpr ?_⟩
        exact ⟨by decide, fun c member => ne_mark_of_isDigit (known c member)⟩
      · exact pointed_fraction (List.forall_mem_singleton.mpr digit) known

/-- The text of a decimal stands for its value. -/
theorem valueOf_written (l : Layout) (d : Scaled) : valueOf (l.written d) = d.value := by
  have known : ∀ c ∈ digitsOf d.digits, c.isDigit = true := fun _ => isDigit_of_mem_digitsOf
  have number : Nat.ofDigitChars 10 (digitsOf d.digits) 0 = d.digits :=
    Nat.ofDigitChars_ten_toDigits
  have exponent : d.leading + 1 - (digitsOf d.digits).length = d.exponent := by
    rw [Scaled.leading]
    omega
  rw [Layout.written, Scaled.value]
  split
  · have unmarked : ∀ c ∈ l.withPoint (digitsOf d.digits) d.leading, c ≠ 'e' := by
      intro c member
      rcases of_mem_withPoint known member with digit | rfl
      · exact ne_mark_of_isDigit digit
      · decide
    rw [valueOf_pointed unmarked, pointed_withPoint known, number, exponent]
  · rw [valueOf_withExponent known Nat.toDigits_ne_nil, number, exponent]

end Values

end QualityGate.Decimal
