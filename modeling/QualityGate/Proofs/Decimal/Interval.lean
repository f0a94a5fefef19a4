import Mathlib.Algebra.Order.Field.Rat
import Mathlib.Tactic.Linarith
import Mathlib.Tactic.Ring
import QualityGate.Decimal.Shortest

/-!
# The intervals of doubles

A double stands for the numbers that round to it (`Binary.Admits`). The magnitudes of doubles are
numbered by their bits (`magnitude`), and the interval of each ends where that of the next one
begins (`high_magnitude`). They meet in one point, which belongs to the double with the even
mantissa, so no number rounds to two doubles (`eq_of_admits`).
-/

namespace QualityGate.Decimal

/-! ## Intervals -/

namespace Binary

/-- A quarter of the step between a double and the next one. -/
def quarter (b : Binary) : ℚ := 2 ^ (b.exponent - 2)

/-- The number that is represented. -/
def value (b : Binary) : ℚ := b.mantissa * 2 ^ b.exponent

/-- How many quarter steps the interval reaches down. -/
def reach (b : Binary) : Nat := if b.closeBelow then 1 else 2

/-- The lower end of the interval of a double. -/
def low (b : Binary) : ℚ := (4 * b.mantissa - b.reach) * b.quarter

/-- The upper end of the interval of a double. -/
def high (b : Binary) : ℚ := (4 * b.mantissa + 2) * b.quarter

/-- Whether a number rounds to a double: it lies in the interval, whose ends belong to it if the
mantissa is even. -/
def Admits (b : Binary) (x : ℚ) : Prop :=
  if b.mantissa % 2 = 0 then b.low ≤ x ∧ x ≤ b.high else b.low < x ∧ x < b.high

variable {b : Binary} {x : ℚ}

theorem quarter_pos (b : Binary) : 0 < b.quarter := zpow_pos (by norm_num) _

theorem one_le_reach (b : Binary) : 1 ≤ b.reach := by
  rw [reach]
  split <;> decide

theorem reach_le_two (b : Binary) : b.reach ≤ 2 := by
  rw [reach]
  split <;> decide

theorem value_eq (b : Binary) : b.value = 4 * b.mantissa * b.quarter := by
  have step : (2 : ℚ) ^ b.exponent = 4 * b.quarter := by
    rw [quarter, zpow_sub₀ (by norm_num)]
    norm_num
    ring
  rw [value, step]
  ring

theorem low_lt_high (b : Binary) : b.low < b.high := by
  have reach : (0 : ℚ) < b.reach := by exact_mod_cast b.one_le_reach
  exact mul_lt_mul_of_pos_right (by linarith) b.quarter_pos

theorem Admits.bounds (admits : b.Admits x) : b.low ≤ x ∧ x ≤ b.high := by
  rw [Admits] at admits
  split at admits
  · exact admits
  · exact ⟨admits.1.le, admits.2.le⟩

theorem Admits.bounds_of_odd (admits : b.Admits x) (odd : b.mantissa % 2 ≠ 0) :
    b.low < x ∧ x < b.high := by
  rwa [Admits, if_neg odd] at admits

/-- Only positive numbers round to a double other than zero. -/
theorem Admits.pos (admits : b.Admits x) (positive : 0 < b.mantissa) : 0 < x := by
  refine lt_of_lt_of_le ?_ admits.bounds.1
  have mantissa : (1 : ℚ) ≤ b.mantissa := by exact_mod_cast positive
  have reach : (b.reach : ℚ) ≤ 2 := by exact_mod_cast b.reach_le_two
  exact mul_pos (by linarith) b.quarter_pos

end Binary

/-! ## The doubles in their order -/

/-- The magnitude of the double with the given bits behind the sign. -/
def magnitude (n : Nat) : Binary :=
  if n / 2 ^ 52 = 0 then ⟨n % 2 ^ 52, -1074, false⟩
  else ⟨n % 2 ^ 52 + 2 ^ 52, ((n / 2 ^ 52 : Nat) : Int) - 1075,
    n % 2 ^ 52 == 0 && decide (n / 2 ^ 52 > 1)⟩

theorem ofBits_eq (bits : UInt64) : Binary.ofBits bits = magnitude (bits.toNat % 2 ^ 63) := by
  have field : bits.toNat % 0x10_0000_0000_0000 = bits.toNat % 2 ^ 63 % 2 ^ 52 := by omega
  have raised : bits.toNat / 0x10_0000_0000_0000 % 0x800 = bits.toNat % 2 ^ 63 / 2 ^ 52 := by omega
  rw [Binary.ofBits, magnitude]
  simp only [field, raised]
  rfl

section Order

variable {n m : Nat} {x : ℚ}

/-- The bits of a double are a raised exponent and 52 bits of the mantissa. -/
theorem exists_fields (n : Nat) : ∃ raised field, field < 2 ^ 52 ∧ n = 2 ^ 52 * raised + field :=
  ⟨n / 2 ^ 52, n % 2 ^ 52, by omega, by omega⟩

/-- The mantissa below `2 ^ 52` belongs to the doubles next to zero. -/
theorem magnitude_small {field : Nat} (small : field < 2 ^ 52) :
    magnitude field = ⟨field, -1074, false⟩ := by
  rw [magnitude, if_pos (Nat.div_eq_of_lt small), Nat.mod_eq_of_lt small]

theorem magnitude_large {field raised : Nat} (small : field < 2 ^ 52) (large : raised ≠ 0) :
    magnitude (2 ^ 52 * raised + field) =
      ⟨field + 2 ^ 52, (raised : Int) - 1075, field == 0 && decide (raised > 1)⟩ := by
  have quotient : (2 ^ 52 * raised + field) / 2 ^ 52 = raised := by omega
  have rest : (2 ^ 52 * raised + field) % 2 ^ 52 = field := by omega
  rw [magnitude, quotient, rest, if_neg large]

theorem mantissa_magnitude_mod (n : Nat) : (magnitude n).mantissa % 2 = n % 2 := by
  rw [magnitude]
  split
  · show n % 2 ^ 52 % 2 = n % 2
    omega
  · show (n % 2 ^ 52 + 2 ^ 52) % 2 = n % 2
    omega

/-- The interval of a double ends where that of the next one begins. -/
theorem high_magnitude (n : Nat) : (magnitude n).high = (magnitude (n + 1)).low := by
  obtain ⟨raised, field, small, rfl⟩ := exists_fields n
  simp only [Binary.high, Binary.low, Binary.reach, Binary.quarter]
  rcases Nat.eq_zero_or_pos raised with rfl | large
  · rw [Nat.mul_zero, Nat.zero_add, magnitude_small small]
    by_cases inside : field + 1 < 2 ^ 52
    · rw [magnitude_small inside]
      congr 1
      push_cast
      ring
    · obtain rfl : field = 2 ^ 52 - 1 := by omega
      rw [show 2 ^ 52 - 1 + 1 = 2 ^ 52 * 1 + 0 from rfl, magnitude_large (by decide) (by decide)]
      congr 1
      norm_num
  · rw [magnitude_large small large.ne']
    by_cases inside : field + 1 < 2 ^ 52
    · rw [Nat.add_assoc, magnitude_large inside large.ne']
      congr 1
      rw [show (field + 1 == 0) = false from rfl, Bool.false_and]
      push_cast
      ring
    · obtain rfl : field = 2 ^ 52 - 1 := by omega
      rw [show 2 ^ 52 * raised + (2 ^ 52 - 1) + 1 = 2 ^ 52 * (raised + 1) + 0 by omega,
        magnitude_large (by decide) (by omega)]
      have step : (2 : ℚ) ^ (((raised + 1 : Nat) : Int) - 1075 - 2) =
          2 * 2 ^ ((raised : Int) - 1075 - 2) := by
        rw [← zpow_one_add₀ (by norm_num)]
        congr 1
        push_cast
        ring
      have close : decide (raised + 1 > 1) = true := decide_eq_true (by omega)
      simp only [step, close]
      norm_num
      ring

/-- The intervals of doubles follow each other in their order. -/
theorem high_le_low (below : n < m) : (magnitude n).high ≤ (magnitude m).low := by
  induction m, below using Nat.le_induction with
  | base => exact (high_magnitude n).le
  | succ m _ ih =>
      exact ih.trans ((magnitude m).low_lt_high.le.trans (high_magnitude m).le)

/-- No number rounds to two doubles. -/
theorem eq_of_admits (admits : (magnitude n).Admits x) (admits' : (magnitude m).Admits x) :
    n = m := by
  -- Of two doubles that are neighbours only one has an even mantissa.
  have apart {n m : Nat} (below : n < m) (admits : (magnitude n).Admits x)
      (admits' : (magnitude m).Admits x) : False := by
    have upper := admits.bounds.2
    have lower := admits'.bounds.1
    rcases Nat.lt_or_ge (n + 1) m with far | near
    · have between := high_le_low far
      rw [high_magnitude] at upper
      exact absurd (upper.trans_lt (magnitude (n + 1)).low_lt_high)
        (not_lt.mpr (between.trans lower))
    · obtain rfl : m = n + 1 := by omega
      rw [← high_magnitude] at lower
      by_cases odd : n % 2 = 0
      · have strict := (admits'.bounds_of_odd (by rw [mantissa_magnitude_mod]; omega)).1
        rw [← high_magnitude] at strict
        exact absurd upper (not_le.mpr strict)
      · have strict := (admits.bounds_of_odd (by rw [mantissa_magnitude_mod]; omega)).2
        exact absurd lower (not_le.mpr strict)
  rcases Nat.lt_trichotomy n m with below | same | above
  · exact (apart below admits admits').elim
  · exact same
  · exact (apart above admits' admits).elim

end Order

end QualityGate.Decimal
