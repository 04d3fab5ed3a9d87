/-
# Meteo.Proofs.Number.Storing -- rounded numbers stored as doubles

The result of an operation on doubles is rounded and then stored.  Storing keeps what is
infinite, zero or no number, and makes an infinite double of a number whose exponent is
beyond those of the doubles (`stored_finite_of_high`, `stored_finite_of_low`).

So a rounded number of some magnitude is stored as a number, and as a finite one exactly if
the magnitude is below `limit` (`Stores`), whichever way it is rounded: from a mantissa with
an accuracy, from a mantissa with any exponent, or from an integer with its sign.
-/
import Mathlib
import Meteo.Proofs.Number.Rounding

namespace Meteo.Double

set_option autoImplicit false

open Float.Model Float.Model.UnpackedFloat

/-! ## What is stored -/

/-- What is unpacked again of a number that is stored as a double. -/
def stored (x : UnpackedFloat) : UnpackedFloat :=
  UnpackedFloat.unpack Format.binary64 (UnpackedFloat.pack Format.binary64 x)

theorem stored_infinity (s : Sign) : stored (.infinity s) = .infinity s := by
  simp [stored, UnpackedFloat.pack, packedInfinity, UnpackedFloat.unpack]

theorem stored_notANumber : stored .notANumber = .notANumber := unpack_packedNaN

theorem stored_zero (s : Sign) : stored (.zero s) = .zero s := unpack_packedZero

/-- Only the greatest exponent is not that of a finite double. -/
theorem finite_packComponents (s : Sign) {e : BitVec 11} (low : e ≠ -1#_) (m : BitVec 52) :
    (UnpackedFloat.unpack Format.binary64 (packComponents Format.binary64 s e m)).isFinite =
        true ∧
      (UnpackedFloat.unpack Format.binary64 (packComponents Format.binary64 s e m)).isNaN =
        false := by
  simp only [UnpackedFloat.unpack, unpackMantissa_packComponents, unpackExponent_packComponents,
    if_neg low]
  split
  · split <;> exact ⟨rfl, rfl⟩
  · exact ⟨rfl, rfl⟩

theorem pack_finite_of_high (s : Sign) (m : ℕ) {e : ℤ} (h : 0 < m) (high : 972 ≤ e) :
    UnpackedFloat.pack Format.binary64 (.finite s m e h) = packedInfinity Format.binary64 s := by
  rw [UnpackedFloat.pack]
  refine if_pos ?_
  change 2 ^ 11 ≤ (e + 1023 + 52).toNat + 1
  omega

theorem pack_finite_of_low (s : Sign) (m : ℕ) {e : ℤ} (h : 0 < m) (low : e < 972) :
    ∃ field fraction, field ≠ -1#_ ∧ UnpackedFloat.pack Format.binary64 (.finite s m e h) =
      packComponents Format.binary64 s field fraction := by
  have small : ¬ 2 ^ 11 ≤ (e + Format.binary64.exponentBias + (52 : ℕ)).toNat + 1 := by
    change ¬ 2 ^ 11 ≤ (e + 1023 + 52).toNat + 1
    omega
  rw [UnpackedFloat.pack]
  dsimp only
  rw [if_neg small]
  split
  · refine ⟨_, _, ?_, rfl⟩
    intro full
    have := congrArg BitVec.toNat full
    change (e + 1023 + 52).toNat % 2 ^ 11 = 2047 at this
    omega
  · refine ⟨_, _, ?_, rfl⟩
    decide

theorem stored_finite_of_high (s : Sign) (m : ℕ) {e : ℤ} (h : 0 < m) (high : 972 ≤ e) :
    stored (.finite s m e h) = .infinity s := by
  rw [stored, pack_finite_of_high s m h high]
  exact stored_infinity s

theorem stored_finite_of_low (s : Sign) (m : ℕ) {e : ℤ} (h : 0 < m) (low : e < 972) :
    (stored (.finite s m e h)).isFinite = true ∧ (stored (.finite s m e h)).isNaN = false := by
  obtain ⟨field, fraction, narrow, packed⟩ := pack_finite_of_low s m h low
  rw [stored, packed]
  exact finite_packComponents s narrow fraction

/-! ## Rounded numbers -/

/-- A number is stored as one of some magnitude: it is finite exactly below `limit`. -/
structure Stores (x : UnpackedFloat) (magnitude : ℚ) : Prop where
  isNaN : (stored x).isNaN = false
  isFinite : (stored x).isFinite = true ↔ magnitude < limit

theorem stores_zero (s : Sign) : Stores (.zero s) 0 := by
  refine ⟨?_, ?_⟩
  · rw [stored_zero]
    rfl
  · rw [stored_zero]
    exact iff_of_true rfl limit_pos

theorem stores_finite (s : Sign) (m : ℕ) {e : ℤ} (h : 0 < m) {magnitude : ℚ}
    (reached : limit ≤ magnitude ↔ 972 ≤ e) : Stores (.finite s m e h) magnitude := by
  rcases lt_or_ge e 972 with low | high
  · obtain ⟨finite, number⟩ := stored_finite_of_low s m h low
    refine ⟨number, iff_of_true finite (lt_of_not_ge fun far => ?_)⟩
    exact absurd (reached.1 far) (by omega)
  · have infinite := stored_finite_of_high s m h high
    refine ⟨?_, ?_⟩
    · rw [infinite]
      rfl
    · rw [infinite]
      exact iff_of_false nofun (not_lt_of_ge (reached.2 high))

theorem mantissa_shiftRight (em : ExtendedMantissa) (k : ℕ) :
    (em >>> k).mantissa = em.mantissa / 2 ^ k := by
  induction k with
  | zero =>
      rw [pow_zero, Nat.div_one]
      rfl
  | succ k ih =>
      rw [pow_succ, ← Nat.div_div_eq_div_mul, ← ih]
      rfl

/-- Rounding brings a number to its exponent, and the rounded mantissa to the exponent that it has
then. -/
theorem roundWithAccuracy_eq {m : ℕ} {e : ℤ} {accuracy : Accuracy} (fine : e ≤ target m e)
    (s : Sign) :
    roundWithAccuracy Format.binary64 s m e accuracy =
      let n := rounded m e accuracy
      let k := (target n (target m e) - target m e).toNat
      if h : n / 2 ^ k = 0 then .zero s
      else .finite s (n / 2 ^ k) (target m e + k) (Nat.pos_of_ne_zero h) := by
  have brought : e + (target m e - e).toNat = target m e := by omega
  rw [roundWithAccuracy]
  simp only [shiftToTargetExponent, shiftToExponent, mantissa_shiftRight,
    mantissa_ofMantissaAndAccuracy]
  change (let n := rounded m e accuracy
    let f := e + (target m e - e).toNat
    let k := (target n f - f).toNat
    if h : n / 2 ^ k = 0 then UnpackedFloat.zero s
    else .finite s (n / 2 ^ k) (f + k) (Nat.pos_of_ne_zero h)) = _
  rw [brought]

/-- Bringing a mantissa to its exponent does not make it zero. -/
theorem div_pow_eq_zero_iff {n : ℕ} {t : ℤ} (least : -1074 ≤ t) :
    n / 2 ^ (target n t - t).toNat = 0 ↔ n = 0 := by
  constructor
  · intro none
    by_contra positive
    have short : (target n t - t).toNat ≤ n.log2 := by
      rw [target_eq]
      omega
    have enough : 2 ^ (target n t - t).toNat ≤ n :=
      (Nat.pow_le_pow_right two_pos short).trans (Nat.log2_self_le positive)
    exact absurd none (Nat.div_pos enough (Nat.two_pow_pos _)).ne'
  · rintro rfl
    exact Nat.zero_div _

theorem stores_roundWithAccuracy {m : ℕ} {e : ℤ} {accuracy : Accuracy} {v : ℚ}
    (h : Halves (.ofMantissaAndAccuracy m accuracy) v) (fine : e ≤ target m e) (s : Sign) :
    Stores (roundWithAccuracy Format.binary64 s m e accuracy) (v * 2 ^ e) := by
  have least : -1074 ≤ target m e := by
    rw [target_eq]
    exact le_max_right _ _
  have reached := limit_le_iff h fine
  rw [roundWithAccuracy_eq fine]
  dsimp only
  split
  · next none =>
    rw [div_pow_eq_zero_iff least] at none
    refine ⟨?_, ?_⟩
    · rw [stored_zero]
      rfl
    · rw [stored_zero]
      exact iff_of_true rfl (lt_of_not_ge fun far => (reached.1 far).1 none)
  · next positive =>
    rw [div_pow_eq_zero_iff least] at positive
    refine stores_finite s _ _ ?_
    rw [reached, and_iff_right positive]
    omega

/-! ## Operands brought to one exponent -/

theorem log2_shiftLeft {m : ℕ} (positive : m ≠ 0) (k : ℕ) : (m <<< k).log2 = m.log2 + k := by
  induction k with
  | zero => rfl
  | succ k ih =>
      have shifted : m <<< k ≠ 0 := by
        rw [Nat.shiftLeft_eq]
        exact Nat.mul_ne_zero positive (Nat.two_pow_pos k).ne'
      rw [Nat.shiftLeft_succ, Nat.log2_two_mul shifted, ih, add_assoc]

theorem target_shiftLeft {m : ℕ} (positive : m ≠ 0) (k : ℕ) (e : ℤ) :
    target (m <<< k) (e - k) = target m e := by
  rw [target_eq, target_eq, log2_shiftLeft positive]
  push_cast
  congr 1
  ring

/-- A number with its exponent decreased is the same number. -/
theorem shiftLeft_mul_zpow (m k : ℕ) (e : ℤ) :
    ((m <<< k : ℕ) : ℚ) * 2 ^ (e - k) = m * 2 ^ e := by
  rw [Nat.shiftLeft_eq, zpow_sub₀ two_ne_zero, zpow_natCast]
  push_cast
  field_simp

/-- A number without residual bits is brought to its exponent before it is rounded. -/
theorem round_eq (s : Sign) (m : ℕ) (e : ℤ) :
    UnpackedFloat.round Format.binary64 s m e =
      let k := (e - target m e).toNat
      roundWithAccuracy Format.binary64 s (m <<< k) (e - k) .exact := rfl

theorem le_target_shiftLeft {m : ℕ} (positive : m ≠ 0) (e : ℤ) :
    e - (e - target m e).toNat ≤
      target (m <<< (e - target m e).toNat) (e - (e - target m e).toNat) := by
  rw [target_shiftLeft positive]
  omega

theorem stores_round (s : Sign) {m : ℕ} (positive : m ≠ 0) (e : ℤ) :
    Stores (UnpackedFloat.round Format.binary64 s m e) (m * 2 ^ e) := by
  rw [round_eq, ← shiftLeft_mul_zpow m (e - target m e).toNat e]
  exact stores_roundWithAccuracy (halves_exact _) (le_target_shiftLeft positive e) s

theorem stores_normalize (n e : ℤ) (s : Sign) :
    Stores (UnpackedFloat.normalize Format.binary64 n e s) (|n| * 2 ^ e) := by
  rw [UnpackedFloat.normalize]
  rcases lt_trichotomy n 0 with negative | rfl | positive
  · rw [compare_lt_iff_lt.2 negative]
    have magnitude : ((|n| : ℤ) : ℚ) = (-n).toNat := by
      rw [abs_of_neg negative, ← Int.cast_natCast, Int.toNat_of_nonneg (by omega)]
    rw [magnitude]
    exact stores_round _ (by omega) e
  · rw [abs_zero, Int.cast_zero, zero_mul]
    exact stores_zero s
  · rw [compare_gt_iff_gt.2 positive]
    have magnitude : ((|n| : ℤ) : ℚ) = n.toNat := by
      rw [abs_of_pos positive, ← Int.cast_natCast, Int.toNat_of_nonneg positive.le]
    rw [magnitude]
    exact stores_round _ (by omega) e

end Meteo.Double
