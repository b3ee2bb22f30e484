import Mathlib.Data.List.Iterate
import Mathlib.Data.Nat.Prime.Basic
import Mathlib.Data.ZMod.Basic
import Mathlib.Dynamics.PeriodicPts.Lemmas
import Mathlib.Tactic.LinearCombination
import Mathlib.Tactic.Ring
import ChannelMembership.Transport.Interference

/-!
# The period of the generator

A step of the generator multiplies by one more than a multiple of four and adds an odd number.  So
twice as many steps add twice as much, up to higher powers of two, and the generator comes back to
where it was only when it has taken every value.
-/

namespace ChannelMembership
namespace Generator

open Function

/-- A step whose factor is one more than a multiple of four and whose summand is odd. -/
def stride {R : Type} [CommRing R] (factor summand value : R) : R :=
  (1 + 4 * factor) * value + (2 * summand + 1)

theorem stride_iterate_two_pow {R : Type} [CommRing R] (factor summand : R) (exponent : Nat) :
    ∃ factor' summand' : R, ∀ value, (stride factor summand)^[2 ^ exponent] value =
      (1 + 2 ^ (exponent + 2) * factor') * value + 2 ^ exponent * (2 * summand' + 1) := by
  induction exponent with
  | zero => exact ⟨factor, summand, fun value => by simp only [stride, pow_zero, iterate_one]; ring⟩
  | succ exponent induction =>
      obtain ⟨factor', summand', steps⟩ := induction
      refine ⟨factor' + 2 ^ (exponent + 1) * factor' * factor',
        summand' + 2 ^ exponent * factor' * (2 * summand' + 1), fun value => ?_⟩
      rw [pow_succ, mul_two, iterate_add_apply, steps, steps]
      ring

/-- The residues of the generator's values move by a stride. -/
theorem cast_next (state : Nat) :
    (next state : ZMod (2 ^ 32)) = stride (416131 : ZMod (2 ^ 32)) 506952111 state := by
  have reduced : next state ≡ 1664525 * state + 1013904223 [MOD 2 ^ 32] :=
    (Nat.mod_modEq _ _).trans ((Nat.mod_modEq _ (2 ^ 64)).of_dvd (pow_dvd_pow 2 (by decide)))
  rw [(ZMod.natCast_eq_natCast_iff _ _ _).2 reduced, stride]
  push_cast
  ring

theorem cast_iterate (state steps : Nat) :
    ((next^[steps] state : Nat) : ZMod (2 ^ 32)) =
      (stride (416131 : ZMod (2 ^ 32)) 506952111)^[steps] state :=
  (Semiconj.iterate_right (f := Nat.cast) cast_next steps).eq state

theorem minimalPeriod_stride (factor summand value : ZMod (2 ^ 32)) :
    minimalPeriod (stride factor summand) value = 2 ^ 32 := by
  have prime : Fact (Nat.Prime 2) := ⟨Nat.prime_two⟩
  have vanishes : (2 : ZMod (2 ^ 32)) ^ 32 = 0 := by
    exact_mod_cast ZMod.natCast_self (2 ^ 32)
  apply minimalPeriod_eq_prime_pow (k := 31)
  · intro periodic
    obtain ⟨factor', summand', steps⟩ := stride_iterate_two_pow factor summand 31
    have moved : (2 : ZMod (2 ^ 32)) ^ 31 = 0 := by
      have stays := (steps value).symm.trans periodic
      linear_combination stays - (2 * factor' * value + summand') * vanishes
    have divides : 2 ^ 32 ∣ 2 ^ 31 := (ZMod.natCast_eq_zero_iff _ _).1 (by exact_mod_cast moved)
    exact absurd (Nat.le_of_dvd (by decide) divides) (by decide)
  · obtain ⟨factor', summand', steps⟩ := stride_iterate_two_pow factor summand 32
    refine (steps value).trans ?_
    linear_combination (4 * factor' * value + 2 * summand' + 1) * vanishes

theorem next_lt (state : Nat) : next state < modulus := Nat.mod_lt _ (by decide)

/-- The generator does not come back to a value before it has taken all of them. -/
theorem iterate_injective (state : Nat) {first second : Nat} (inside : first < modulus)
    (inside' : second < modulus) (same : next^[first] state = next^[second] state) :
    first = second := by
  have whole : minimalPeriod (stride (416131 : ZMod (2 ^ 32)) 506952111) state = modulus := by
    rw [minimalPeriod_stride, modulus]
    norm_num
  rw [← whole] at inside inside'
  refine (iterate_eq_iterate_iff_of_lt_minimalPeriod inside inside').1 ?_
  rw [← cast_iterate, ← cast_iterate, same]

theorem nodup_iterate (state : Nat) : (List.iterate next state modulus).Nodup := by
  rw [← List.range_map_iterate]
  refine List.Nodup.map_on (fun first inside second inside' same => ?_) List.nodup_range
  exact iterate_injective state (List.mem_range.1 inside) (List.mem_range.1 inside') same

theorem mem_iterate_next {state steps value : Nat}
    (among : value ∈ List.iterate next (next state) steps) : value < modulus := by
  obtain ⟨position, -, rfl⟩ := List.mem_iterate.1 among
  rw [← iterate_succ_apply, iterate_succ_apply']
  exact next_lt _

/-- Among as many values in a row as there are, every value comes up once. -/
theorem period (state : Nat) :
    (List.iterate next (next state) modulus).Perm (List.range modulus) := by
  have inside : List.iterate next (next state) modulus ⊆ List.range modulus :=
    fun value among => List.mem_range.2 (mem_iterate_next among)
  refine ((nodup_iterate (next state)).subperm inside).perm_of_length_le ?_
  rw [List.length_range, List.length_iterate]

end Generator
end ChannelMembership
