import Mathlib
import QualityGate.Proofs.Decimal.Interval
import QualityGate.Proofs.Decimal.Text

/-!
# The shortest decimal of a double

With seventeen digits there is a decimal that rounds to a double (`isSome_onGrid?`), so the search
ends with one for every double (`admits_shortest`), and a double other than zero is known by its
shortest decimal (`magnitude_eq_of_shortest`). The decimal is read from the text of the double, and
so a finite double is known by its text (`eq_of_render_json`).

The lemmas on the bits of doubles come with the whole of Mathlib only.
-/

namespace QualityGate.Decimal

/-! ## Grids -/

/-- A power as a fraction of natural numbers. -/
theorem zpow_eq_div {n : Nat} (positive : 0 < n) (e : Int) :
    (n : ℚ) ^ e = ((n ^ e.toNat : Nat) : ℚ) / ((n ^ (-e).toNat : Nat) : ℚ) := by
  have nonzero : (n : ℚ) ≠ 0 := by exact_mod_cast positive.ne'
  rcases le_total 0 e with up | down
  · obtain ⟨k, rfl⟩ := Int.eq_ofNat_of_zero_le up
    simp
  · obtain ⟨k, same⟩ := Int.eq_ofNat_of_zero_le (Int.neg_nonneg.mpr down)
    obtain rfl : e = -k := by omega
    simp [zpow_neg]

namespace Binary

variable {b : Binary} {e : Int} {n : Nat}

/-- The step of a grid in the units in which points are compared. -/
def unit (b : Binary) (e : Int) : Nat := (tenPower e).1 * (twoPower (b.exponent - 2)).2

/-- A quarter step in the units in which points are compared. -/
def scale (b : Binary) (e : Int) : Nat := (twoPower (b.exponent - 2)).1 * (tenPower e).2

/-- The last point of a grid that is not above a double. -/
def below (b : Binary) (e : Int) : Nat := 4 * b.mantissa * b.scale e / b.unit e

/-- Whether a point of a grid rounds to a double. -/
def inside (b : Binary) (e : Int) (n : Nat) : Bool :=
  if b.mantissa % 2 = 0 then
    (4 * b.mantissa - b.reach) * b.scale e ≤ n * b.unit e
      && n * b.unit e ≤ (4 * b.mantissa + 2) * b.scale e
  else
    (4 * b.mantissa - b.reach) * b.scale e < n * b.unit e
      && n * b.unit e < (4 * b.mantissa + 2) * b.scale e

theorem onGrid?_eq (b : Binary) (e : Int) : b.onGrid? e =
    match b.inside e (b.below e) && b.below e != 0, b.inside e (b.below e + 1) with
    | true, true =>
      let down := 4 * b.mantissa * b.scale e - b.below e * b.unit e
      let up := (b.below e + 1) * b.unit e - 4 * b.mantissa * b.scale e
      if down < up || (down == up && b.below e % 2 == 0) then some (b.below e)
      else some (b.below e + 1)
    | true, false => some (b.below e)
    | false, true => some (b.below e + 1)
    | false, false => none := rfl

/-- What is compared in units is compared as it is. -/
theorem scaled_le_iff (b : Binary) (e : Int) (k n : Nat) :
    (k * b.scale e ≤ n * b.unit e ↔ k * b.quarter ≤ n * (10 : ℚ) ^ e) ∧
      (n * b.unit e ≤ k * b.scale e ↔ n * (10 : ℚ) ^ e ≤ k * b.quarter) := by
  have ten := zpow_eq_div (n := 10) (by decide) e
  have two := zpow_eq_div (n := 2) (by decide) (b.exponent - 2)
  have tenPos : (0 : ℚ) < ((10 ^ (-e).toNat : Nat) : ℚ) := by positivity
  have twoPos : (0 : ℚ) < ((2 ^ (-(b.exponent - 2)).toNat : Nat) : ℚ) := by positivity
  push_cast at ten two tenPos twoPos
  rw [quarter, ten, two, mul_div_assoc', mul_div_assoc', div_le_div_iff₀ twoPos tenPos,
    div_le_div_iff₀ tenPos twoPos, scale, unit]
  simp only [tenPower, twoPower, Nat.pow_eq]
  constructor
  · rw [← mul_assoc, ← mul_assoc]
    exact_mod_cast Iff.rfl
  · rw [← mul_assoc, ← mul_assoc]
    exact_mod_cast Iff.rfl

/-- The points that are found are those that round to the double. -/
theorem inside_iff (positive : 0 < b.mantissa) : b.inside e n = true ↔ b.Admits (n * 10 ^ e) := by
  have reach := b.reach_le_two
  have low : b.low = ((4 * b.mantissa - b.reach : Nat) : ℚ) * b.quarter := by
    rw [Binary.low, Nat.cast_sub (by omega)]
    push_cast
    rfl
  have high : b.high = ((4 * b.mantissa + 2 : Nat) : ℚ) * b.quarter := by
    rw [Binary.high]
    push_cast
    rfl
  rw [inside, Admits, low, high]
  split
  · rw [Bool.and_eq_true, decide_eq_true_eq, decide_eq_true_eq, (scaled_le_iff b e _ n).1,
      (scaled_le_iff b e _ n).2]
  · rw [Bool.and_eq_true, decide_eq_true_eq, decide_eq_true_eq, ← not_le, ← not_le, ← not_le,
      ← not_le, (scaled_le_iff b e _ n).1, (scaled_le_iff b e _ n).2]

/-- A point that is found on a grid rounds to the double. -/
theorem admits_of_onGrid? (positive : 0 < b.mantissa) (found : b.onGrid? e = some n) :
    b.Admits (n * 10 ^ e) := by
  rw [← inside_iff positive]
  rw [onGrid?_eq] at found
  split at found
  case h_1 down up =>
      rw [Bool.and_eq_true] at down
      dsimp only at found
      split at found
      · cases found
        exact down.1
      · cases found
        exact up
  case h_2 down _ =>
      rw [Bool.and_eq_true] at down
      cases found
      exact down.1
  case h_3 _ up =>
      cases found
      exact up
  case h_4 => cases found

/-- A double lies between two neighbours of a grid. -/
theorem below_le (b : Binary) (e : Int) :
    b.below e * (10 : ℚ) ^ e ≤ b.value ∧ b.value < (b.below e + 1 : Nat) * (10 : ℚ) ^ e := by
  have unit : 0 < b.unit e := Nat.mul_pos (Nat.pow_pos (by decide)) (Nat.pow_pos (by decide))
  have quarters : ((4 * b.mantissa : Nat) : ℚ) * b.quarter = b.value := by
    rw [value_eq]
    push_cast
    rfl
  have floor : b.below e * b.unit e ≤ 4 * b.mantissa * b.scale e := Nat.div_mul_le_self _ _
  have next : 4 * b.mantissa * b.scale e < (b.below e + 1) * b.unit e := by
    rw [Nat.mul_comm (b.below e + 1)]
    exact Nat.lt_mul_div_succ _ unit
  rw [← not_le, (scaled_le_iff b e _ _).2, quarters, not_le] at next
  rw [(scaled_le_iff b e _ _).2, quarters] at floor
  exact ⟨floor, next⟩

/-- What holds of the magnitudes of doubles: a mantissa has at most 53 bits, only a power of two has
its lower neighbour close by, and exponents have eleven bits. -/
structure Normal (b : Binary) : Prop where
  positive : 0 < b.mantissa
  small : b.mantissa < 2 ^ 53
  power : b.closeBelow = true → b.mantissa = 2 ^ 52
  least : -1074 ≤ b.exponent
  greatest : b.exponent ≤ 972

/-- Steps of at most a part in `10 ^ 16` of a double are smaller than its interval. -/
theorem step_lt (normal : b.Normal) {step : ℚ} (fine : 10 ^ 16 * step ≤ b.value) :
    step < (b.reach + 2) * b.quarter := by
  rw [value_eq] at fine
  have quarter := b.quarter_pos
  rw [reach]
  cases close : b.closeBelow with
  | true =>
      have mantissa : (b.mantissa : ℚ) = 2 ^ 52 := by exact_mod_cast normal.power close
      rw [mantissa] at fine
      norm_num at fine ⊢
      linarith
  | false =>
      have mantissa : (b.mantissa : ℚ) < 2 ^ 53 := by exact_mod_cast normal.small
      have bound := mul_lt_mul_of_pos_right mantissa quarter
      norm_num at fine bound ⊢
      linarith

theorem isSome_ite {α : Type} {p : Prop} [Decidable p] {x y : α} :
    (if p then some x else some y).isSome = true := by
  split <;> rfl

/-- On a grid that is fine enough there is a point that rounds to the double. -/
theorem isSome_onGrid? (normal : b.Normal) (fine : 10 ^ 16 * (10 : ℚ) ^ e ≤ b.value) :
    (b.onGrid? e).isSome = true := by
  obtain ⟨floor, next⟩ := b.below_le e
  have ten : (0 : ℚ) < 10 ^ e := zpow_pos (by norm_num) e
  have nonzero : (b.below e != 0) = true := by
    rw [bne_iff_ne]
    intro none
    rw [none] at next
    norm_num at next
    linarith
  -- If the neighbour below is out of reach, the one above is not: the two are close together.
  have either : b.inside e (b.below e) = true ∨ b.inside e (b.below e + 1) = true := by
    rw [inside_iff normal.positive, inside_iff normal.positive]
    have step := step_lt normal fine
    have quarter := b.quarter_pos
    have value := b.value_eq
    by_cases reached : b.low < b.below e * (10 : ℚ) ^ e
    · left
      have under : b.below e * (10 : ℚ) ^ e < b.high := by
        rw [high, add_mul, ← value]
        linarith
      rw [Admits]
      split
      · exact ⟨reached.le, under.le⟩
      · exact ⟨reached, under⟩
    · right
      have lower : b.low < (b.below e + 1 : Nat) * (10 : ℚ) ^ e := by
        have reach : (0 : ℚ) < b.reach := by exact_mod_cast b.one_le_reach
        have := mul_pos reach quarter
        rw [low, sub_mul, ← value]
        linarith
      have upper : (b.below e + 1 : Nat) * (10 : ℚ) ^ e < b.high := by
        rw [low, sub_mul, ← value, not_lt] at reached
        rw [high, add_mul, ← value]
        push_cast
        linarith
      rw [Admits]
      split
      · exact ⟨lower.le, upper.le⟩
      · exact ⟨lower, upper⟩
  rw [onGrid?_eq]
  rcases either with found | found
  · rw [found, nonzero]
    split
    · exact isSome_ite
    · rfl
    · rfl
    · next none _ => cases none
  · rw [found]
    split
    · exact isSome_ite
    · rfl
    · rfl
    · next none => cases none

/-! ## The first digit -/

/-- The power of ten that is compared with a double. -/
theorem atLeastTenPower_iff (b : Binary) (e : Int) :
    b.atLeastTenPower e = true ↔ (10 : ℚ) ^ e ≤ b.value := by
  have ten := zpow_eq_div (n := 10) (by decide) e
  have two := zpow_eq_div (n := 2) (by decide) b.exponent
  have tenPos : (0 : ℚ) < ((10 ^ (-e).toNat : Nat) : ℚ) := by positivity
  have twoPos : (0 : ℚ) < ((2 ^ (-b.exponent).toNat : Nat) : ℚ) := by positivity
  push_cast at ten two tenPos twoPos
  rw [value, ten, two, mul_div_assoc', div_le_div_iff₀ tenPos twoPos]
  refine decide_eq_true_iff.trans ?_
  rw [Nat.pow_eq, Nat.pow_eq, Nat.pow_eq, Nat.pow_eq]
  exact_mod_cast Iff.rfl

/-- The logarithm of two is more than `59 / 196`. -/
theorem ten_pow_le_two_pow {g k : Nat} (small : 196 * g ≤ 59 * k) : 10 ^ g ≤ 2 ^ k := by
  refine (Nat.pow_le_pow_iff_left (n := 59) (by decide)).mp ?_
  calc (10 ^ g) ^ 59 = (10 ^ 59) ^ g := Nat.pow_right_comm ..
    _ ≤ (2 ^ 196) ^ g := Nat.pow_le_pow_left (by norm_num) g
    _ = 2 ^ (196 * g) := (Nat.pow_mul ..).symm
    _ ≤ 2 ^ (k * 59) := Nat.pow_le_pow_right (by decide) (by omega)
    _ = (2 ^ k) ^ 59 := Nat.pow_mul ..

/-- The logarithm of two is less than `28 / 93`. -/
theorem two_pow_le_ten_pow {g k : Nat} (large : 28 * k ≤ 93 * g) : 2 ^ k ≤ 10 ^ g := by
  refine (Nat.pow_le_pow_iff_left (n := 93) (by decide)).mp ?_
  calc (2 ^ k) ^ 93 = (2 ^ 93) ^ k := Nat.pow_right_comm ..
    _ ≤ (10 ^ 28) ^ k := Nat.pow_le_pow_left (by norm_num) k
    _ = 10 ^ (28 * k) := (Nat.pow_mul ..).symm
    _ ≤ 10 ^ (g * 93) := Nat.pow_le_pow_right (by decide) (by omega)
    _ = (10 ^ g) ^ 93 := Nat.pow_mul ..

/-- The guess for the first digit, made one smaller, is not too large. -/
theorem ten_zpow_le_two_zpow {k : Int} (least : -2000 ≤ k) (greatest : k ≤ 2000) :
    (10 : ℚ) ^ (k * 30103 / 100000 - 1) ≤ 2 ^ k := by
  rcases Int.le_total 0 k with whole | negative
  · obtain ⟨l, rfl⟩ := Int.eq_ofNat_of_zero_le whole
    have power := ten_pow_le_two_pow (g := ((l : Int) * 30103 / 100000 - 1).toNat) (k := l)
      (by omega)
    calc (10 : ℚ) ^ ((l : Int) * 30103 / 100000 - 1)
        ≤ 10 ^ ((((l : Int) * 30103 / 100000 - 1).toNat : Nat) : Int) :=
          zpow_le_zpow_right₀ (by norm_num) (by omega)
      _ ≤ 2 ^ (l : Int) := by
          rw [zpow_natCast, zpow_natCast]
          exact_mod_cast power
  · obtain ⟨l, same⟩ := Int.eq_ofNat_of_zero_le (Int.neg_nonneg.mpr negative)
    obtain ⟨g, exponent⟩ : ∃ g : Nat, k * 30103 / 100000 - 1 = -g :=
      ⟨(1 - k * 30103 / 100000).toNat, by omega⟩
    have power : 2 ^ l ≤ 10 ^ g := two_pow_le_ten_pow (by omega)
    obtain rfl : k = -l := by omega
    rw [exponent, zpow_neg, zpow_neg, zpow_natCast, zpow_natCast]
    exact inv_anti₀ (by positivity) (by exact_mod_cast power)

/-- A double is at least the power of ten at its first digit. -/
theorem ten_zpow_leadingExponent_le (normal : b.Normal) :
    (10 : ℚ) ^ b.leadingExponent ≤ b.value := by
  rw [leadingExponent]
  split
  · exact (atLeastTenPower_iff b _).mp ‹_›
  split
  · exact (atLeastTenPower_iff b _).mp ‹_›
  have log : b.mantissa.log2 < 53 := (Nat.log2_lt normal.positive.ne').mpr normal.small
  have least := normal.least
  have greatest := normal.greatest
  calc (10 : ℚ) ^ (((b.mantissa.log2 : Int) + b.exponent) * 30103 / 100000 - 1)
      ≤ 2 ^ ((b.mantissa.log2 : Int) + b.exponent) :=
        ten_zpow_le_two_zpow (by omega) (by omega)
    _ = 2 ^ b.mantissa.log2 * 2 ^ b.exponent := by
        rw [zpow_add₀ (by norm_num), zpow_natCast]
    _ ≤ b.mantissa * 2 ^ b.exponent := by
        refine mul_le_mul_of_nonneg_right ?_ (zpow_nonneg (by norm_num) _)
        exact_mod_cast Nat.log2_self_le normal.positive.ne'

/-! ## The search -/

/-- Zeros at the end of the digits do not count. -/
theorem value_strip (d : Scaled) (fuel : Nat) : (d.strip fuel).value = d.value := by
  induction fuel generalizing d with
  | zero => rfl
  | succ fuel ih =>
      rw [Scaled.strip]
      split
      case isTrue zeros =>
        have digits : (d.digits : ℚ) = (d.digits / 10 : Nat) * 10 := by
          exact_mod_cast (Nat.div_mul_cancel (Nat.dvd_of_mod_eq_zero zeros.2)).symm
        rw [ih, Scaled.value, Scaled.value, digits, zpow_add₀ (by norm_num), zpow_one]
        ring
      case isFalse => rfl

/-- The search ends with a decimal that rounds to the double, at seventeen digits at the latest. -/
theorem admits_search (normal : b.Normal) {leading : Int}
    (first : (10 : ℚ) ^ leading ≤ b.value) (left : Nat) :
    b.Admits (b.search leading (left + 1)).value := by
  induction left with
  | zero =>
      have fine : 10 ^ 16 * (10 : ℚ) ^ (leading - (16 - ((0 : Nat) : Int))) ≤ b.value := by
        rw [← zpow_natCast, ← zpow_add₀ (by norm_num)]
        convert first using 2
        omega
      obtain ⟨n, found⟩ := Option.isSome_iff_exists.mp (isSome_onGrid? normal fine)
      rw [search]
      simp only [found]
      rw [value_strip]
      exact admits_of_onGrid? normal.positive found
  | succ left ih =>
      rw [search]
      split
      next n found =>
        rw [value_strip]
        exact admits_of_onGrid? normal.positive found
      next => exact ih

end Binary

/-- What holds of the magnitudes of doubles other than zero. -/
theorem normal_magnitude {n : Nat} (positive : 0 < n) (bits : n < 2 ^ 63) :
    (magnitude n).Normal := by
  obtain ⟨raised, field, small, rfl⟩ := exists_fields n
  rcases Nat.eq_zero_or_pos raised with rfl | large
  · rw [Nat.mul_zero, Nat.zero_add] at positive ⊢
    rw [magnitude_small small]
    exact ⟨positive, small.trans (by decide), by simp, by simp, by simp⟩
  · rw [magnitude_large small large.ne']
    refine ⟨by simp, ?_, ?_, ?_, ?_⟩
    · show field + 2 ^ 52 < 2 ^ 53
      omega
    · intro close
      rw [Bool.and_eq_true, beq_iff_eq] at close
      show field + 2 ^ 52 = 2 ^ 52
      omega
    · show -1074 ≤ (raised : Int) - 1075
      omega
    · show (raised : Int) - 1075 ≤ 972
      omega

section Doubles

variable {f f' : Float}

/-- The shortest decimal of a double rounds to it. -/
theorem admits_shortest (nonzero : 0 < f.toBits.toNat % 2 ^ 63) :
    (magnitude (f.toBits.toNat % 2 ^ 63)).Admits (shortest f).value := by
  have normal := normal_magnitude nonzero (Nat.mod_lt _ (by decide))
  rw [shortest, ofBits_eq]
  exact Binary.admits_search normal (Binary.ten_zpow_leadingExponent_le normal) 16

/-- The shortest decimal of a double is positive. -/
theorem value_shortest_pos (nonzero : 0 < f.toBits.toNat % 2 ^ 63) : 0 < (shortest f).value :=
  (admits_shortest nonzero).pos (normal_magnitude nonzero (Nat.mod_lt _ (by decide))).positive

/-- A double is known by its shortest decimal, up to its sign. -/
theorem magnitude_eq_of_shortest (nonzero : 0 < f.toBits.toNat % 2 ^ 63)
    (nonzero' : 0 < f'.toBits.toNat % 2 ^ 63) (same : (shortest f).value = (shortest f').value) :
    f.toBits.toNat % 2 ^ 63 = f'.toBits.toNat % 2 ^ 63 :=
  eq_of_admits (admits_shortest nonzero) (same ▸ admits_shortest nonzero')

/-! ## The texts of doubles -/

/-- The decimal that is written for the magnitude of a finite double. -/
def decimalOf (f : Float) : Scaled := if f == 0.0 then ⟨0, 0⟩ else shortest f

/-- The sign that is written of a double. -/
def signOf (f : Float) : List Char :=
  if f.toBits.toNat ≥ 0x8000_0000_0000_0000 then ['-'] else []

/-- The text of a finite double in JSON: its sign and a decimal. -/
theorem toList_render_json (number : f.isNaN = false) (finite : f.isInf = false) :
    (Layout.json.render f).toList = signOf f ++ Layout.json.written (decimalOf f) := by
  rw [Layout.render, number, finite, decimalOf]
  simp only [Bool.false_eq_true, if_false, String.toList_ofList, signOf]
  congr 1
  split
  · rfl
  · rfl

/-- The two zeros are the doubles without bits behind the sign. -/
theorem beq_zero_iff (number : f.isNaN = false) :
    (f == 0.0) = true ↔ f.toBits.toNat % 2 ^ 63 = 0 := by
  have known : f ≠ Float.nan := by
    rintro rfl
    exact absurd number (by decide +kernel)
  have zero : (0.0 : Float) = 0 := by decide +kernel
  have bits : (0 : Float).toBits.toNat = 0 := by decide +kernel
  have bits' : (-0 : Float).toBits.toNat = 2 ^ 63 := by decide +kernel
  have determined (g : Float) : f = g ↔ f.toBits.toNat = g.toBits.toNat := by
    rw [← Float.toBits_inj, UInt64.toNat_inj]
  have zeroKnown : (0 : Float) ≠ Float.nan := by decide +kernel
  have apart : (0 : Float) ≠ -0 := by decide +kernel
  have below := f.toBits.toNat_lt
  rw [zero, Float.beq_iff_ne_nan_and_eq]
  constructor
  · rintro ⟨-, -, same | ⟨-, same⟩ | ⟨same, -⟩⟩
    · rw [same, bits, Nat.zero_mod]
    · exact absurd same apart
    · rw [same, bits', Nat.mod_self]
  · intro none
    refine ⟨known, zeroKnown, ?_⟩
    rcases (by omega : f.toBits.toNat = 0 ∨ f.toBits.toNat = 2 ^ 63) with positive | negative
    · exact .inl ((determined 0).mpr (positive.trans bits.symm))
    · exact .inr (.inr ⟨(determined (-0)).mpr (negative.trans bits'.symm), rfl⟩)

/-- The decimal of a finite double determines it up to its sign. -/
theorem magnitude_eq_of_decimalOf (number : f.isNaN = false) (number' : f'.isNaN = false)
    (same : (decimalOf f).value = (decimalOf f').value) :
    f.toBits.toNat % 2 ^ 63 = f'.toBits.toNat % 2 ^ 63 := by
  have zero : (⟨0, 0⟩ : Scaled).value = 0 := by simp [Scaled.value]
  have positive {f : Float} (number : f.isNaN = false) (other : ¬ (f == 0.0) = true) :
      0 < f.toBits.toNat % 2 ^ 63 := Nat.pos_of_ne_zero (other ∘ (beq_zero_iff number).mpr)
  rw [decimalOf, decimalOf] at same
  split at same <;> split at same
  case isTrue.isTrue isZero isZero' =>
    rw [(beq_zero_iff number).mp isZero, (beq_zero_iff number').mp isZero']
  case isTrue.isFalse other =>
    rw [zero] at same
    exact absurd same (value_shortest_pos (positive number' other)).ne
  case isFalse.isTrue other _ =>
    rw [zero] at same
    exact absurd same (value_shortest_pos (positive number other)).ne'
  case isFalse.isFalse other other' =>
    exact magnitude_eq_of_shortest (positive number other) (positive number' other') same

/-- A finite double is known by its JSON text. -/
theorem eq_of_render_json (number : f.isNaN = false) (finite : f.isInf = false)
    (number' : f'.isNaN = false) (finite' : f'.isInf = false)
    (same : Layout.json.render f = Layout.json.render f') : f = f' := by
  have texts := congrArg String.toList same
  rw [toList_render_json number finite, toList_render_json number' finite'] at texts
  obtain ⟨c, cs, first, digit⟩ := exists_digit_written .json (decimalOf f)
  obtain ⟨c', cs', first', digit'⟩ := exists_digit_written .json (decimalOf f')
  have signless {c : Char} (digit : c.isDigit = true) : c ≠ '-' := by
    rintro rfl
    exact absurd digit (by decide)
  have below := f.toBits.toNat_lt
  have below' := f'.toBits.toNat_lt
  -- A sign stands in one text if it stands in the other, because decimals start with a digit.
  obtain ⟨signs, decimals⟩ : (f.toBits.toNat ≥ 2 ^ 63 ↔ f'.toBits.toNat ≥ 2 ^ 63) ∧
      Layout.json.written (decimalOf f) = Layout.json.written (decimalOf f') := by
    rw [signOf, signOf] at texts
    split at texts <;> split at texts
    case isTrue.isTrue signed signed' =>
      exact ⟨iff_of_true signed signed', List.append_cancel_left texts⟩
    case isTrue.isFalse =>
      rw [first'] at texts
      exact absurd (List.cons.inj texts).1.symm (signless digit')
    case isFalse.isTrue =>
      rw [first] at texts
      exact absurd (List.cons.inj texts).1 (signless digit)
    case isFalse.isFalse unsigned unsigned' => exact ⟨iff_of_false unsigned unsigned', texts⟩
  have values := congrArg valueOf decimals
  rw [valueOf_written, valueOf_written] at values
  have magnitudes := magnitude_eq_of_decimalOf number number' values
  rw [← Float.toBits_inj, ← UInt64.toNat_inj]
  omega

end Doubles

end QualityGate.Decimal
