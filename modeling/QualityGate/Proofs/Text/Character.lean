import QualityGate.Expression.Lexeme
import QualityGate.Text.Word

/-!
# Kinds of characters

Characters of plain names are word characters and no blanks. The blanks of expressions are some of
the characters that the Unicode property `White_Space` has.
-/

namespace QualityGate.Text

variable {c : Char}

theorem isDigit_iff : isDigit c = true ↔ 48 ≤ c.toNat ∧ c.toNat ≤ 57 := by
  simp only [isDigit, Bool.and_eq_true, decide_eq_true_iff, Char.le_def, UInt32.le_iff_toNat_le]
  rfl

theorem isLetter_iff : isLetter c = true ↔
    (97 ≤ c.toNat ∧ c.toNat ≤ 122) ∨ (65 ≤ c.toNat ∧ c.toNat ≤ 90) := by
  simp only [isLetter, Bool.or_eq_true, Bool.and_eq_true, decide_eq_true_iff, Char.le_def,
    UInt32.le_iff_toNat_le]
  rfl

/-- The code points of letters, digits, underscores and dashes. -/
theorem toNat_of_isNameRest (rest : (isNameRest c || c == '-') = true) :
    (48 ≤ c.toNat ∧ c.toNat ≤ 57) ∨ (65 ≤ c.toNat ∧ c.toNat ≤ 90) ∨
      (97 ≤ c.toNat ∧ c.toNat ≤ 122) ∨ c.toNat = 95 ∨ c.toNat = 45 := by
  simp only [isNameRest, isNameStart, Bool.or_eq_true, isLetter_iff, isDigit_iff, beq_iff_eq,
    ← Char.toNat_inj, Char.reduceToNat] at rest
  omega

/-- A blank goes on with no name. -/
theorem isNameRest_eq_false_of_isBlank (blank : isBlank c = true) : isNameRest c = false := by
  refine Bool.eq_false_iff.mpr fun rest => ?_
  have range := toNat_of_isNameRest (Bool.or_eq_true_iff.mpr (.inl rest))
  simp [isBlank] at blank
  omega

/-- A blank is none of the characters that are no blanks. -/
theorem ne_of_isBlank {d : Char} (blank : isBlank c = true) (visible : isBlank d = false) :
    c ≠ d := by
  rintro rfl
  rw [blank] at visible
  cases visible

/-- Up to U+167F there are two blanks behind the space. -/
theorem isBlank_eq_false (above : 0x20 < c.toNat) (below : c.toNat < 0x1680)
    (nextLine : c.toNat ≠ 0x85) (noBreak : c.toNat ≠ 0xA0) : isBlank c = false := by
  refine Bool.eq_false_iff.mpr fun blank => ?_
  simp only [isBlank, Bool.or_eq_true, Bool.and_eq_true, decide_eq_true_iff, beq_iff_eq] at blank
  omega

theorem isBlank_of_isBlank (blank : Expression.Lexeme.isBlank c = true) : isBlank c = true := by
  have : (((c = ' ' ∨ c = '\t') ∨ c = '\n') ∨ c = '\r') ∨ c = '\x0c' := by
    simpa [Expression.Lexeme.isBlank] using blank
  rcases this with (((rfl | rfl) | rfl) | rfl) | rfl <;> decide

theorem isWordChar_of_isNameRest (rest : isNameRest c = true) : isWordChar c = true := by
  simp only [isNameRest, isNameStart, isLetter, isDigit, Bool.or_eq_true] at rest
  simp only [isWordChar, Bool.or_eq_true]
  rcases rest with (((lower | upper) | underscore)) | digit
  · exact .inl (.inl (.inl (.inl lower)))
  · exact .inl (.inl (.inl (.inr upper)))
  · exact .inl (.inr underscore)
  · exact .inl (.inl (.inr digit))

/-- Digits that denote a number have values, each by itself. -/
theorem isSome_of_digitsValue? {base : Nat} {value? : Char → Option Nat} {acc : Option Nat}
    {cs : List Char} {v : Nat}
    (value : cs.foldl (fun acc c => do return (← acc) * base + (← value? c)) acc = some v) :
    acc.isSome = true ∧ ∀ c ∈ cs, (value? c).isSome = true := by
  induction cs generalizing acc with
  | nil => exact ⟨by rw [show acc = some v from value]; rfl, nofun⟩
  | cons c cs ih =>
      obtain ⟨first, others⟩ := ih value
      obtain ⟨w, first⟩ := Option.isSome_iff_exists.mp first
      obtain ⟨n, known, first⟩ := Option.bind_eq_some_iff.mp first
      obtain ⟨d, digit, -⟩ := Option.bind_eq_some_iff.mp first
      exact ⟨by rw [known]; rfl, List.forall_mem_cons.mpr ⟨by rw [digit]; rfl, others⟩⟩

end QualityGate.Text
