/-
# Meteo.Proofs.Number.Count -- the doubles of counts

The double nearest to a positive integer has a mantissa of 53 bits, or is infinite
(`nearest_count`), and packing such a mantissa and reading it again gives it back
(`ofFloat_toFloat`).  So a count of at least one is a number of at least one
(`one_le_value_ofNat`), however large it is.
-/
import Mathlib
import Meteo.Proofs.Number.Value

namespace Meteo

set_option autoImplicit false

open Float.Model Float.Model.UnpackedFloat

theorem toBits_ofBits {b : UInt64} (valid : Format.binary64.Valid b.toBitVec) :
    (Float.ofBits b).toBits = b :=
  UInt64.toBitVec_inj.1 (pack_unpack_of_valid valid)

namespace Exact

/-- The bits of a positive normal double. -/
def normalBits (m : ℕ) (e : ℤ) : ℕ := (e + 1074).toNat * 2 ^ 52 + m

variable {m : ℕ} {e : ℤ}

theorem ne_zero_of_log2 (bits : m.log2 = 52) : m ≠ 0 := by
  rintro rfl
  rw [Nat.log2_zero] at bits
  cases bits

theorem toFloat_normal (bits : m.log2 = 52) (least : -1074 ≤ e) :
    toFloat (.finite false m e) = Float.ofBits (UInt64.ofNat (normalBits m e)) := by
  have positive := ne_zero_of_log2 bits
  have unshifted : min (52 - (m.log2 : ℤ)) (e + 1074) = 0 := by omega
  unfold toFloat
  simp only [if_neg positive, unshifted, Bool.false_eq_true, if_false, le_refl, if_true,
    Int.toNat_zero, sub_zero, Nat.pow_eq, pow_zero, mul_one, zero_add, normalBits]

/-- The fields of the bits of a positive normal double. -/
theorem normalBits_fields (bits : m.log2 = 52) (least : -1074 ≤ e) (low : e ≤ 971) :
    normalBits m e < 2 ^ 63 ∧ ((normalBits m e / 2 ^ 52 % 2 ^ 11 : ℕ) : ℤ) = e + 1075 ∧
      normalBits m e % 2 ^ 52 + 2 ^ 52 = m := by
  obtain ⟨normal, short⟩ := (Nat.log2_eq_iff (ne_zero_of_log2 bits)).1 bits
  rw [normalBits]
  omega

theorem ofFloat_ofBits {n : ℕ} (small : n < 2 ^ 63) (partially : n / 2 ^ 52 % 2 ^ 11 ≠ 2047)
    (normal : n / 2 ^ 52 % 2 ^ 11 ≠ 0) :
    ofFloat (Float.ofBits (UInt64.ofNat n)) =
      .finite false (n % 2 ^ 52 + 2 ^ 52) ((n / 2 ^ 52 % 2 ^ 11 : ℕ) - 1075) := by
  have read : (UInt64.ofNat n).toNat = n := UInt64.toNat_ofNat_of_lt' (small.trans (by decide))
  have valid : Format.binary64.Valid (UInt64.ofNat n).toBitVec := by
    refine ⟨fun full => ?_⟩
    have top := congrArg BitVec.toNat full
    rw [toNat_unpackExponent] at top
    change (UInt64.ofNat n).toNat / 2 ^ 52 % 2 ^ 11 = 2047 at top
    rw [read] at top
    exact absurd top partially
  have positive : n / 2 ^ 63 % 2 = 0 := by omega
  unfold ofFloat
  rw [toBits_ofBits valid, read]
  simp only [Nat.pow_eq, if_neg partially, if_neg normal, positive]
  rfl

/-- A positive normal double is read as it was packed. -/
theorem ofFloat_toFloat (bits : m.log2 = 52) (least : -1074 ≤ e) (low : e ≤ 971) :
    ofFloat (toFloat (.finite false m e)) = .finite false m e := by
  obtain ⟨small, field, mantissa⟩ := normalBits_fields bits least low
  rw [toFloat_normal bits least, ofFloat_ofBits small (by omega) (by omega), field, mantissa]
  congr 1
  omega

end Exact

namespace Double

open Ordinate

theorem roundDiv_one (n : ℕ) : roundDiv n 1 = n := by
  rw [roundDiv, Nat.mod_one, if_pos (by decide), Nat.div_one]

theorem roundDiv_bounds (n d : ℕ) : n / d ≤ roundDiv n d ∧ roundDiv n d ≤ n / d + 1 := by
  unfold roundDiv
  dsimp only
  split
  · omega
  · split
    · split <;> omega
    · omega

/-- Rounded to the exponent that leaves it 53 bits, a positive integer keeps them. -/
theorem scaledRound_count {k : ℕ} (positive : k ≠ 0) :
    2 ^ 52 ≤ BinaryFormat.scaledRound k 1 (k.log2 - 52) ∧
      BinaryFormat.scaledRound k 1 (k.log2 - 52) ≤ 2 ^ 53 := by
  have least := Nat.log2_self_le positive
  have most : k < 2 ^ (k.log2 + 1) := Nat.lt_log2_self
  rw [BinaryFormat.scaledRound]
  split
  · next large =>
    obtain ⟨j, split⟩ := Nat.exists_eq_add_of_le (by omega : 52 ≤ k.log2)
    have exponent : ((k.log2 : ℤ) - 52).toNat = j := by omega
    have bounds := roundDiv_bounds k (1 * Nat.pow 2 j)
    rw [exponent]
    rw [split, pow_add] at least
    rw [split, show 52 + j + 1 = 53 + j by ring, pow_add] at most
    have low : 2 ^ 52 ≤ k / 2 ^ j := (Nat.le_div_iff_mul_le (Nat.two_pow_pos j)).2 least
    have high : k / 2 ^ j < 2 ^ 53 := (Nat.div_lt_iff_lt_mul (Nat.two_pow_pos j)).2 most
    rw [one_mul, Nat.pow_eq] at bounds ⊢
    omega
  · next small =>
    obtain ⟨j, split⟩ := Nat.exists_eq_add_of_le (by omega : k.log2 ≤ 52)
    have exponent : (-((k.log2 : ℤ) - 52)).toNat = j := by omega
    rw [exponent, roundDiv_one, Nat.pow_eq]
    constructor
    · rw [split, pow_add]
      exact Nat.mul_le_mul_right _ least
    · have bound := Nat.mul_le_mul_right (2 ^ j) most.le
      rwa [← pow_add, show k.log2 + 1 + j = 53 by omega] at bound

/-- The exponent that is estimated for an integer leaves it 53 bits. -/
theorem not_tooFew {k : ℕ} (positive : k ≠ 0) :
    ¬ (if 0 ≤ (k.log2 : ℤ) - 52 then
        k < 1 * Nat.pow 2 ((k.log2 : ℤ) - 52).toNat * Nat.pow 2 (53 - 1)
      else k * Nat.pow 2 (-((k.log2 : ℤ) - 52)).toNat < 1 * Nat.pow 2 (53 - 1)) := by
  have least := Nat.log2_self_le positive
  simp only [Nat.pow_eq, one_mul]
  split
  · next large =>
    rw [← pow_add, show ((k.log2 : ℤ) - 52).toNat + (53 - 1) = k.log2 by omega]
    exact Nat.not_lt.2 least
  · next small =>
    have bound := Nat.mul_le_mul_right (2 ^ (-((k.log2 : ℤ) - 52)).toNat) least
    rw [← pow_add, show k.log2 + (-((k.log2 : ℤ) - 52)).toNat = 53 - 1 by omega] at bound
    exact Nat.not_lt.2 bound

/-- The double nearest to a positive integer is of at least 53 bits, or infinite. -/
theorem nearest_count {k : ℕ} (positive : k ≠ 0) :
    BinaryFormat.double.nearest false k 1 = .infinite false ∨
      ∃ m e, BinaryFormat.double.nearest false k 1 = .finite false m e ∧
        m.log2 = 52 ∧ -52 ≤ e ∧ e ≤ 971 := by
  obtain ⟨low, high⟩ := scaledRound_count positive
  have log2_of (m : ℕ) (least : 2 ^ 52 ≤ m) (most : m < 2 ^ 53) : m.log2 = 52 :=
    (Nat.log2_eq_iff (by omega)).2 ⟨least, most⟩
  have estimate : (k.log2 : ℤ) - (Nat.log2 1 : ℕ) - ((53 : ℕ) - 1) = k.log2 - 52 := by
    rw [show Nat.log2 1 = 0 by decide]
    omega
  have above : max (-1074) ((k.log2 : ℤ) - 52) = k.log2 - 52 := by omega
  rw [BinaryFormat.nearest, if_neg positive, BinaryFormat.double]
  simp only [estimate]
  rw [if_neg (not_tooFew positive), above]
  generalize BinaryFormat.scaledRound k 1 (k.log2 - 52) = m at low high
  split
  · split
    · exact .inl rfl
    · refine .inr ⟨_, _, rfl, ?_, by omega, by omega⟩
      exact log2_of _ (by decide) (by decide)
  · next short =>
    split
    · exact .inl rfl
    · refine .inr ⟨_, _, rfl, log2_of _ low ?_, by omega, by omega⟩
      exact lt_of_le_of_ne high short

theorem infinite_toFloat : isNaN (Exact.toFloat (.infinite false)) = false ∧
    isFinite (Exact.toFloat (.infinite false)) = false := by
  decide +kernel

/-- A count of at least one, as a double, is a number of at least one, or infinite. -/
theorem one_le_value_ofNat {k : ℕ} (positive : k ≠ 0) :
    isNaN (ofNat k : Float) = false ∧
      (isFinite (ofNat k : Float) = true → 1 ≤ value (ofNat k)) := by
  have nearest : (ofNat k : Float) = (BinaryFormat.double.nearest false k 1).toFloat := rfl
  rw [nearest]
  rcases nearest_count positive with large | ⟨m, e, made, bits, least, low⟩
  · rw [large, infinite_toFloat.1, infinite_toFloat.2]
    exact ⟨rfl, fun no => Bool.noConfusion no⟩
  · have read := Exact.ofFloat_toFloat bits (by omega) low
    rw [made]
    constructor
    · refine Bool.eq_false_iff.2 fun missing => ?_
      rw [ofFloat_of_isNaN missing] at read
      cases read
    · intro _
      have mantissa : 2 ^ 52 ≤ m :=
        ((Nat.log2_eq_iff (Exact.ne_zero_of_log2 bits)).1 bits).1
      have unit : (2 : ℚ) ^ (-52 : ℤ) ≤ 2 ^ e := zpow_le_zpow_right₀ one_le_two least
      rw [value, read, Exact.value]
      calc (1 : ℚ) = 2 ^ 52 * 2 ^ (-52 : ℤ) := by norm_num
        _ ≤ m * 2 ^ e := by
            refine mul_le_mul ?_ unit (zpow_pos two_pos _).le (Nat.cast_nonneg m)
            exact_mod_cast mantissa

end Double

end Meteo
