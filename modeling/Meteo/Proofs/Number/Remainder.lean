/-
# Meteo.Proofs.Number.Remainder -- remainders of fractions

A fraction has two remainders by a positive number `n`: the one in `[0, n)`, which is `n`
times the fractional part of the quotient (`wrap_eq`), and the one nearest to zero, at most
`n / 2` away from it (`exists_remainder?`).  Both differ from the fraction by a multiple of
`n`.  Halfway between two multiples the second one may be on either side of zero.
-/
import Mathlib.Tactic.Linarith
import Mathlib.Tactic.Positivity
import Mathlib.Tactic.FieldSimp
import Meteo.Proofs.Number.Fraction

namespace Meteo.Fraction

set_option autoImplicit false

theorem less_eq (x : ℚ) (k : ℤ) (n : ℕ) : less x k n = x - k * n := by
  unfold less
  show x - ((k * n : ℤ) : ℚ) = x - k * n
  push_cast
  rfl

theorem wrap_eq {n : ℕ} (pos : 0 < n) (x : ℚ) : Ordinate.wrap x n = n * Int.fract (x / n) := by
  have positive : (0 : ℚ) < n := by exact_mod_cast pos
  show less x ⌊x / n⌋ n = _
  rw [less_eq, Int.fract]
  field_simp

/-! ## Rounding -/

/-- How a fraction compares with one half shows in its numerator and its denominator. -/
theorem two_mul_num_lt_den_iff (q : ℚ) : 2 * q.num < q.den ↔ 2 * q < 1 := by
  have pos : (0 : ℚ) < q.den := by exact_mod_cast q.den_pos
  rw [← Int.cast_lt (R := ℚ)]
  push_cast
  rw [← q.mul_den_eq_num, ← mul_assoc, mul_lt_iff_lt_one_left pos]

theorem two_mul_num_eq_den_iff (q : ℚ) : 2 * q.num = q.den ↔ 2 * q = 1 := by
  have pos : (q.den : ℚ) ≠ 0 := by exact_mod_cast q.den_ne_zero
  rw [← Int.cast_inj (α := ℚ)]
  push_cast
  rw [← q.mul_den_eq_num, ← mul_assoc, mul_eq_right₀ pos]

/-- Rounding moves a fraction by at most one half. -/
theorem abs_sub_round_le (x : ℚ) : |x - round x| ≤ 1 / 2 := by
  have low : (x.floor : ℚ) ≤ x := Rat.floor_le x
  have high : x < x.floor + 1 := by exact_mod_cast Rat.lt_floor_add_one x
  have rest : Rat.sub x (Rat.ofInt x.floor) = x - x.floor := rfl
  unfold round
  simp only [rest, two_mul_num_lt_den_iff, two_mul_num_eq_den_iff]
  split
  · next less => rw [abs_le]; constructor <;> linarith
  · next half =>
    split
    · next tie =>
      split <;> rw [abs_le] <;> push_cast <;> constructor <;> linarith
    · rw [abs_le]
      push_cast
      constructor <;> linarith

/-- The remainder nearest to zero is at most half of what it is a remainder by. -/
theorem exists_remainder? {n : ℕ} (pos : 0 < n) (x : ℚ) :
    ∃ (r : ℚ) (k : ℤ), Ordinate.remainder? x n = .ok r ∧ r = x - k * n ∧ |r| ≤ n / 2 := by
  have positive : (0 : ℚ) < n := by exact_mod_cast pos
  refine ⟨x - round (x / n) * n, round (x / n), ?_, rfl, ?_⟩
  · show Except.ok (less x (round (x / n)) n) = _
    rw [less_eq]
  · have scaled : x - round (x / n) * n = (x / n - round (x / n)) * n := by field_simp
    rw [scaled, abs_mul, abs_of_pos positive]
    linarith [mul_le_mul_of_nonneg_right (abs_sub_round_le (x / n)) positive.le]

end Meteo.Fraction
