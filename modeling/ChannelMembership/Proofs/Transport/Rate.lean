import Mathlib.Algebra.Order.Floor.Semiring
import Mathlib.Data.Rat.Floor
import Mathlib.Algebra.Order.Field.Rat
import ChannelMembership.Transport.Interference

/-!
# The rate as a number

A value of the generator strikes if, taken as a fraction of the modulus, it lies below the rate.
-/

namespace ChannelMembership

namespace Rate

/-- The value of a rate. -/
def value (rate : Rate) : ℚ := rate.numerator / rate.denominator

theorem value_le_one (rate : Rate) : rate.value ≤ 1 := by
  have positive : (0 : ℚ) < rate.denominator := Nat.cast_pos.2 rate.denominator_pos
  exact (div_le_one positive).2 (Nat.cast_le.2 rate.le_one)

end Rate

namespace Interference

theorem strikes_iff (rate : Rate) (value : Nat) :
    strikes rate value = true ↔ (value : ℚ) < rate.value * Generator.modulus := by
  have positive : (0 : ℚ) < rate.denominator := Nat.cast_pos.2 rate.denominator_pos
  rw [strikes, decide_eq_true_iff, Rate.value, div_mul_eq_mul_div, lt_div_iff₀ positive]
  exact_mod_cast Iff.rfl

/-- A value that strikes at some rate strikes at every greater one. -/
theorem strikes_mono {rate greater : Rate} (le : rate.value ≤ greater.value) {value : Nat}
    (strike : strikes rate value = true) : strikes greater value = true := by
  rw [strikes_iff] at strike ⊢
  exact strike.trans_le (mul_le_mul_of_nonneg_right le (Nat.cast_nonneg _))

theorem not_strikes_of_zero {rate : Rate} (zero : rate.value = 0) (value : Nat) :
    ¬strikes rate value = true := by
  rw [strikes_iff, zero, zero_mul]
  exact not_lt.2 (Nat.cast_nonneg value)

theorem strikes_of_one {rate : Rate} (one : rate.value = 1) {value : Nat}
    (small : value < Generator.modulus) : strikes rate value = true := by
  rw [strikes_iff, one, one_mul]
  exact_mod_cast small

/-- The values that strike are those below a threshold, which is at most the modulus. -/
theorem strikes_iff_lt_ceil (rate : Rate) (value : Nat) :
    strikes rate value = true ↔ value < ⌈rate.value * Generator.modulus⌉₊ :=
  (strikes_iff rate value).trans Nat.lt_ceil.symm

theorem ceil_le_modulus (rate : Rate) :
    ⌈rate.value * Generator.modulus⌉₊ ≤ Generator.modulus :=
  Nat.ceil_le.2 (mul_le_of_le_one_left (Nat.cast_nonneg _) rate.value_le_one)

/-- How many values of the generator strike. -/
theorem countP_strikes (rate : Rate) :
    (List.range Generator.modulus).countP (strikes rate) = ⌈rate.value * Generator.modulus⌉₊ := by
  have below : (List.range ⌈rate.value * Generator.modulus⌉₊).countP (strikes rate) =
      ⌈rate.value * Generator.modulus⌉₊ := by
    refine (List.countP_eq_length.2 fun value inside => ?_).trans List.length_range
    exact (strikes_iff_lt_ceil rate value).2 (List.mem_range.1 inside)
  obtain ⟨others, all⟩ := Nat.exists_eq_add_of_le (ceil_le_modulus rate)
  have above : ((List.range others).map (⌈rate.value * Generator.modulus⌉₊ + ·)).countP
      (strikes rate) = 0 := by
    refine List.countP_eq_zero.2 fun value among strike => ?_
    obtain ⟨beyond, -, rfl⟩ := List.mem_map.1 among
    exact Nat.not_lt.2 (Nat.le_add_right _ _) ((strikes_iff_lt_ceil rate _).1 strike)
  calc (List.range Generator.modulus).countP (strikes rate)
      = (List.range (⌈rate.value * Generator.modulus⌉₊ + others)).countP (strikes rate) := by
        rw [← all]
    _ = ⌈rate.value * Generator.modulus⌉₊ := by
        rw [List.range_add, List.countP_append, below, above, Nat.add_zero]

end Interference
end ChannelMembership
