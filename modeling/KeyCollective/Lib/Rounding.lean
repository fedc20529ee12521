import Mathlib.Algebra.Order.Floor.Ring
import Mathlib.Data.Int.Log
import Mathlib.Data.Rat.Floor
import Mathlib.Tactic.Linarith

/-!
# Rounding to binary floating point

A rational is rounded to a multiple of a power of two that leaves it so many bits, halves to
even. Integers of that many bits are multiples of the power, so rounding does not pass them.
-/

namespace KeyCollective.Rounding

/-- The nearest integer, halves to even. -/
def toEven (x : ℚ) : ℤ :=
  let rest := x - ⌊x⌋
  if 2 * rest < 1 ∨ 2 * rest = 1 ∧ ⌊x⌋ % 2 = 0 then ⌊x⌋ else ⌊x⌋ + 1

/-- The exponent of the last bit of `x`. -/
def lastBit (precision : ℕ) (least : ℤ) (x : ℚ) : ℤ :=
  max (Int.log 2 |x| - precision + 1) least

def nearest (precision : ℕ) (least : ℤ) (x : ℚ) : ℚ :=
  toEven (x / 2 ^ lastBit precision least x) * 2 ^ lastBit precision least x

theorem le_toEven {k : ℤ} {x : ℚ} (le : k ≤ x) : k ≤ toEven x := by
  have floor : k ≤ ⌊x⌋ := Int.le_floor.mpr le
  simp only [toEven]
  split
  · exact floor
  · omega

variable {precision : ℕ} {least : ℤ} {x : ℚ}

/-- A multiple of the last bit is not passed. -/
theorem le_nearest {k : ℤ} (le : k * 2 ^ lastBit precision least x ≤ x) :
    k * 2 ^ lastBit precision least x ≤ nearest precision least x := by
  have positive : (0 : ℚ) < 2 ^ lastBit precision least x := zpow_pos two_pos _
  have scaled : k ≤ toEven (x / 2 ^ lastBit precision least x) :=
    le_toEven ((le_div_iff₀ positive).mpr le)
  exact mul_le_mul_of_nonneg_right (by exact_mod_cast scaled) positive.le

/-- Rounding does not pass an integer of so many bits. -/
theorem natCast_le_nearest {n : ℕ} (bits : n ≤ 2 ^ precision) (some_bit : 0 < precision)
    (fine : least ≤ 0) (le : n ≤ x) : n ≤ nearest precision least x := by
  rcases Nat.eq_zero_or_pos n with rfl | positive
  · have zero := @le_nearest precision least x 0 (by simpa using le)
    simpa using zero
  have above : (0 : ℚ) < x := lt_of_lt_of_le (by exact_mod_cast positive) le
  rcases le_or_gt (lastBit precision least x) 0 with small | large
  · -- the last bit divides one
    obtain ⟨places, exponent⟩ := Int.eq_ofNat_of_zero_le (neg_nonneg.mpr small)
    have multiple : ((n * 2 ^ places : ℤ) : ℚ) * 2 ^ lastBit precision least x = n := by
      rw [show lastBit precision least x = -(places : ℤ) by omega, zpow_neg, zpow_natCast]
      push_cast
      field_simp
    rw [← multiple]
    exact le_nearest (by rw [multiple]; exact le)
  · -- `x` has more bits than that, and its first one stays
    have exponent : lastBit precision least x = Int.log 2 x - precision + 1 := by
      rw [lastBit, abs_of_pos above] at large ⊢
      exact max_eq_left (by omega)
    have first : ((2 ^ (precision - 1) : ℤ) : ℚ) * 2 ^ lastBit precision least x =
        2 ^ Int.log 2 x := by
      push_cast
      rw [exponent, ← zpow_natCast, ← zpow_add₀ two_ne_zero]
      congr 1
      omega
    have reached : (2 : ℚ) ^ Int.log 2 x ≤ x := Int.zpow_log_le_self one_lt_two above
    have long : (n : ℚ) ≤ 2 ^ Int.log 2 x := by
      have wide : (n : ℚ) ≤ 2 ^ (precision : ℤ) := by
        rw [zpow_natCast]
        exact_mod_cast bits
      exact wide.trans (zpow_le_zpow_right₀ one_le_two (by omega))
    rw [← first] at reached long
    exact long.trans (le_nearest reached)

end KeyCollective.Rounding
