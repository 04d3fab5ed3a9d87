/-
# Meteo.Proofs.Number.Rounding -- when a rounded number lies beyond the doubles

Doubles are rounded from a mantissa with two residual bits, which together are a number of
half units rounded down (`Halves`).  Shifting the mantissa to a larger unit keeps that, so
rounding reaches an even number exactly where the number itself comes within half a unit of
it (`even_le_roundedMantissa`).

The power of two above the largest double is such an even number of units.  Hence rounding
leaves the doubles exactly from `limit` on, half a unit below that power
(`limit_le_iff`), whatever the mantissa and the exponent it starts from.
-/
import Mathlib.Algebra.Order.Field.Power
import Mathlib.Data.Rat.Floor
import Mathlib.Tactic.FieldSimp
import Mathlib.Tactic.Linarith
import Mathlib.Tactic.NormNum
import Mathlib.Tactic.Ring

namespace Meteo.Double

set_option autoImplicit false

open Float.Model Float.Model.UnpackedFloat

/-! ## Mantissas with residual bits -/

/-- The half units in a mantissa and its round bit. -/
def halves (em : ExtendedMantissa) : ℕ := 2 * em.mantissa + em.roundBit.toNat

theorem halves_shiftRightOne (em : ExtendedMantissa) : halves em.shiftRightOne = em.mantissa := by
  rw [halves, ExtendedMantissa.shiftRightOne]
  rcases Nat.mod_two_eq_zero_or_one em.mantissa with even | odd
  · simp [even]
    omega
  · simp [odd]
    omega

/-- A mantissa with its round bit is a number rounded down to half units. -/
structure Halves (em : ExtendedMantissa) (v : ℚ) : Prop where
  le : (halves em : ℚ) ≤ 2 * v
  lt : 2 * v < halves em + 1

namespace Halves

variable {em : ExtendedMantissa} {v : ℚ}

theorem mantissa_le (h : Halves em v) : (em.mantissa : ℚ) ≤ v := by
  have least : 2 * (em.mantissa : ℚ) ≤ halves em := by
    rw [halves]
    push_cast
    exact le_add_of_nonneg_right (Nat.cast_nonneg _)
  linarith [h.le]

theorem lt_mantissa (h : Halves em v) : v < em.mantissa + 1 := by
  have bit : em.roundBit.toNat ≤ 1 := Bool.toNat_le _
  have most : (halves em : ℚ) ≤ 2 * em.mantissa + 1 := by
    rw [halves]
    exact_mod_cast (by omega)
  linarith [h.lt]

theorem shiftRightOne (h : Halves em v) : Halves em.shiftRightOne (v / 2) := by
  constructor
  · rw [halves_shiftRightOne]
    linarith [h.mantissa_le]
  · rw [halves_shiftRightOne]
    linarith [h.lt_mantissa]

theorem shiftRight (h : Halves em v) (k : ℕ) : Halves (em >>> k) (v / 2 ^ k) := by
  induction k with
  | zero =>
      rw [pow_zero, div_one]
      exact h
  | succ k ih =>
      rw [pow_succ, ← div_div]
      exact ih.shiftRightOne

/-- An even number is reached by rounding exactly from half a unit below it on. -/
theorem even_le_roundedMantissa (h : Halves em v) {n : ℕ} (even : n % 2 = 0) :
    n ≤ em.roundedMantissa ↔ (n : ℚ) - 1 / 2 ≤ v := by
  have reached : (n : ℚ) - 1 / 2 ≤ v ↔ 2 * n ≤ halves em + 1 := by
    constructor
    · intro near
      have below : ((2 * n : ℕ) : ℚ) < (halves em + 2 : ℕ) := by
        push_cast
        linarith [h.lt]
      have := Nat.cast_lt.1 below
      omega
    · intro near
      have cast : ((2 * n : ℕ) : ℚ) ≤ (halves em + 1 : ℕ) := Nat.cast_le.2 near
      push_cast at cast
      linarith [h.le]
  rw [reached, halves]
  obtain ⟨m, _ | _, _ | _⟩ := em
  · change n ≤ m ↔ 2 * n ≤ 2 * m + 0 + 1
    omega
  · change n ≤ m ↔ 2 * n ≤ 2 * m + 0 + 1
    omega
  -- a tie goes to the even neighbour, which is the one that counts
  · change n ≤ m + m % 2 ↔ 2 * n ≤ 2 * m + 1 + 1
    omega
  · change n ≤ m + 1 ↔ 2 * n ≤ 2 * m + 1 + 1
    omega

end Halves

@[simp] theorem mantissa_ofMantissaAndAccuracy (m : ℕ) (accuracy : Accuracy) :
    (ExtendedMantissa.ofMantissaAndAccuracy m accuracy).mantissa = m := by
  rcases accuracy with _ | (_ | _ | _) <;> rfl

theorem halves_exact (m : ℕ) : Halves (.ofMantissaAndAccuracy m .exact) m where
  le := by simp [halves, ExtendedMantissa.ofMantissaAndAccuracy]
  lt := by simp [halves, ExtendedMantissa.ofMantissaAndAccuracy]

/-- A quotient is known to half units from its whole part and the comparison of twice the
remainder with the divisor. -/
theorem halves_div (m : ℕ) {d : ℕ} (positive : 0 < d) :
    Halves (.ofMantissaAndAccuracy (m / d) (accuracyOfFraction (m % d) d)) ((m : ℚ) / d) := by
  have divisor : (0 : ℚ) < d := Nat.cast_pos.2 positive
  have whole : d * (m / d) + m % d = m := Nat.div_add_mod m d
  have rest : m % d < d := Nat.mod_lt m positive
  -- both bounds are bounds on twice the dividend
  suffices bounds : halves (.ofMantissaAndAccuracy (m / d) (accuracyOfFraction (m % d) d)) * d ≤
      2 * m ∧
      2 * m < (halves (.ofMantissaAndAccuracy (m / d) (accuracyOfFraction (m % d) d)) + 1) * d by
    constructor
    · rw [← mul_div_assoc, le_div_iff₀ divisor]
      exact_mod_cast bounds.1
    · rw [← mul_div_assoc, div_lt_iff₀ divisor]
      exact_mod_cast bounds.2
  generalize m / d = q at whole ⊢
  generalize m % d = r at whole rest ⊢
  subst whole
  by_cases none : r = 0
  · simp only [accuracyOfFraction, if_pos none, halves, ExtendedMantissa.ofMantissaAndAccuracy,
      Bool.toNat_false]
    constructor <;> nlinarith
  · rw [accuracyOfFraction, if_neg none]
    rcases lt_trichotomy (2 * r) d with less | same | more
    · rw [compare_lt_iff_lt.2 less]
      simp only [halves, ExtendedMantissa.ofMantissaAndAccuracy, Bool.toNat_false]
      constructor <;> nlinarith
    · rw [compare_eq_iff_eq.2 same]
      simp only [halves, ExtendedMantissa.ofMantissaAndAccuracy, Bool.toNat_true]
      constructor <;> nlinarith
    · rw [compare_gt_iff_gt.2 more]
      simp only [halves, ExtendedMantissa.ofMantissaAndAccuracy, Bool.toNat_true]
      constructor <;> nlinarith

/-! ## The exponent of a rounded number -/

/-- The exponent that a mantissa with an exponent is brought to: it leaves 53 bits, unless it is the
least one. -/
def target (m : ℕ) (e : ℤ) : ℤ := Format.binary64.targetExponent (totalExponent m e)

theorem target_eq (m : ℕ) (e : ℤ) : target m e = max ((m.log2 : ℤ) + e - 52) (-1074) := by
  rw [target, Format.targetExponent, totalExponent]
  congr 1
  change (m.log2 : ℤ) + 1 + e - 53 = m.log2 + e - 52
  ring

/-- The mantissa after rounding. -/
def rounded (m : ℕ) (e : ℤ) (accuracy : Accuracy) : ℕ :=
  (ExtendedMantissa.ofMantissaAndAccuracy m accuracy >>>
    (target m e - e).toNat).roundedMantissa

/-- Half a unit below the power of two above the largest double. -/
def limit : ℚ := 2 ^ (1024 : ℤ) - 2 ^ (970 : ℤ)

theorem pow_lt_limit : (2 : ℚ) ^ (1023 : ℤ) < limit := by
  have small : (2 : ℚ) ^ (970 : ℤ) < 2 ^ (1023 : ℤ) := zpow_lt_zpow_right₀ one_lt_two (by omega)
  rw [limit, show (1024 : ℤ) = 1023 + 1 by rfl, zpow_add_one₀ two_ne_zero, mul_two,
    lt_sub_iff_add_lt]
  exact (add_lt_add_iff_left _).2 small

theorem limit_lt_pow : limit < (2 : ℚ) ^ (1024 : ℤ) :=
  sub_lt_self _ (zpow_pos two_pos _)

theorem limit_pos : 0 < limit := (zpow_pos two_pos _).trans pow_lt_limit

section Rounded

variable {m : ℕ} {e : ℤ} {accuracy : Accuracy} {v : ℚ}

/-- A mantissa brought to a greater exponent. -/
theorem div_two_pow_eq {t : ℤ} (v : ℚ) (fine : e ≤ t) :
    v / 2 ^ (t - e).toNat = v * 2 ^ e / 2 ^ t := by
  rw [← zpow_natCast, Int.toNat_of_nonneg (by omega), zpow_sub₀ two_ne_zero]
  field_simp

theorem even_le_rounded (h : Halves (.ofMantissaAndAccuracy m accuracy) v) (fine : e ≤ target m e)
    {n : ℕ} (even : n % 2 = 0) :
    n ≤ rounded m e accuracy ↔ ((n : ℚ) - 1 / 2) * 2 ^ target m e ≤ v * 2 ^ e := by
  have unit : (0 : ℚ) < 2 ^ target m e := zpow_pos two_pos _
  rw [rounded, (h.shiftRight _).even_le_roundedMantissa even, ← le_div_iff₀ unit,
    div_two_pow_eq v fine]

theorem lt_pow (h : Halves (.ofMantissaAndAccuracy m accuracy) v) :
    v * 2 ^ e < (2 : ℚ) ^ (m.log2 + 1 + e) := by
  have most : ((m + 1 : ℕ) : ℚ) ≤ (2 ^ (m.log2 + 1) : ℕ) := Nat.cast_le.2 Nat.lt_log2_self
  have above := h.lt_mantissa
  rw [mantissa_ofMantissaAndAccuracy] at above
  push_cast at most
  rw [zpow_add₀ two_ne_zero]
  refine mul_lt_mul_of_pos_right ?_ (zpow_pos two_pos e)
  exact_mod_cast above.trans_le most

/-- A mantissa that is not brought to the least exponent keeps 53 bits. -/
theorem pow_le (h : Halves (.ofMantissaAndAccuracy m accuracy) v) (fine : e ≤ target m e)
    (above : -1074 < target m e) : (2 : ℚ) ^ (target m e + 52) ≤ v * 2 ^ e := by
  have brought : target m e = m.log2 + e - 52 := by
    rw [target_eq] at above ⊢
    omega
  have positive : m ≠ 0 := by
    rintro rfl
    rw [brought, Nat.log2_zero] at fine
    omega
  have least : ((2 ^ m.log2 : ℕ) : ℚ) ≤ v := by
    have below := h.mantissa_le
    rw [mantissa_ofMantissaAndAccuracy] at below
    exact (Nat.cast_le.2 (Nat.log2_self_le positive)).trans below
  rw [brought, show (m.log2 : ℤ) + e - 52 + 52 = m.log2 + e by ring, zpow_add₀ two_ne_zero]
  refine mul_le_mul_of_nonneg_right ?_ (zpow_pos two_pos e).le
  exact_mod_cast least

/-- The power of two above the largest double, in units of a lower exponent. -/
theorem greatest_sub_half {t : ℤ} (low : t ≤ 971) :
    (((2 ^ (1024 - t).toNat : ℕ) : ℚ) - 1 / 2) * 2 ^ t = 2 ^ (1024 : ℤ) - 2 ^ (t - 1) := by
  have whole : ((2 ^ (1024 - t).toNat : ℕ) : ℚ) * 2 ^ t = 2 ^ (1024 : ℤ) := by
    rw [Nat.cast_pow, Nat.cast_ofNat, ← zpow_natCast, ← zpow_add₀ two_ne_zero]
    congr 1
    omega
  rw [sub_mul, whole, zpow_sub_one₀ two_ne_zero]
  ring

/-- A number that rounding brings to a lower exponent reaches `limit` where it reaches half a unit
below the power of two above the largest double. -/
theorem limit_le_iff_of_low (h : Halves (.ofMantissaAndAccuracy m accuracy) v)
    (low : target m e ≤ 971) :
    limit ≤ v * 2 ^ e ↔ (2 : ℚ) ^ (1024 : ℤ) - 2 ^ (target m e - 1) ≤ v * 2 ^ e := by
  constructor
  · intro reached
    -- so large a number has no lower exponent than the largest doubles
    have top : target m e = 971 := by
      have bits : (2 : ℚ) ^ (1023 : ℤ) < 2 ^ (m.log2 + 1 + e) :=
        calc (2 : ℚ) ^ (1023 : ℤ) < limit := pow_lt_limit
          _ ≤ v * 2 ^ e := reached
          _ < 2 ^ (m.log2 + 1 + e) := lt_pow h
      have := (zpow_lt_zpow_iff_right₀ one_lt_two).1 bits
      have := target_eq m e
      omega
    rw [top]
    exact reached
  · intro reached
    have unit : (2 : ℚ) ^ (target m e - 1) ≤ 2 ^ (970 : ℤ) :=
      zpow_le_zpow_right₀ one_le_two (by omega)
    rw [limit]
    linarith

/-- Rounding leaves the exponents of doubles exactly from `limit` on. -/
theorem limit_le_iff (h : Halves (.ofMantissaAndAccuracy m accuracy) v) (fine : e ≤ target m e) :
    limit ≤ v * 2 ^ e ↔ rounded m e accuracy ≠ 0 ∧
      972 ≤ max (target m e) (target (rounded m e accuracy) (target m e)) := by
  rcases lt_or_ge 971 (target m e) with high | low
  · have large := pow_le h fine (by omega)
    refine iff_of_true ?_ ⟨?_, le_max_of_le_left (by omega)⟩
    · calc limit ≤ 2 ^ (1024 : ℤ) := limit_lt_pow.le
        _ ≤ 2 ^ (target m e + 52) := zpow_le_zpow_right₀ one_le_two (by omega)
        _ ≤ v * 2 ^ e := large
    · have two : 2 ≤ rounded m e accuracy := by
        rw [even_le_rounded h fine (by rfl)]
        refine le_trans ?_ large
        rw [zpow_add₀ two_ne_zero, mul_comm]
        exact mul_le_mul_of_nonneg_left (by norm_num) (zpow_pos two_pos _).le
      omega
  · have several : (1024 - target m e).toNat ≠ 0 := by omega
    have even : 2 ^ (1024 - target m e).toNat % 2 = 0 := by
      rw [← Nat.succ_pred_eq_of_ne_zero several, pow_succ]
      omega
    rw [limit_le_iff_of_low h low, ← greatest_sub_half low, ← even_le_rounded h fine even]
    by_cases none : rounded m e accuracy = 0
    · rw [none]
      refine iff_of_false ?_ fun both => both.1 rfl
      exact Nat.not_le.2 (Nat.two_pow_pos _)
    · rw [← Nat.le_log2 none, and_iff_right none, target_eq (rounded m e accuracy)]
      omega

end Rounded

end Meteo.Double
