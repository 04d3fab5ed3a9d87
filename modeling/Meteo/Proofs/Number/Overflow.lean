/-
# Meteo.Proofs.Number.Overflow -- when differences and quotients of doubles are finite

A difference of finite doubles is stored with its exact magnitude, and so is a quotient
(`stores_sub`, `stores_div`).  Both are brought to one exponent first, a quotient to one that
leaves it 53 bits (`quotientExponent_le`).

The infinite doubles and those that are no number have rules of their own.  Together these say
when a difference or a quotient of any two doubles is finite, and when it is no number
(`isFinite_sub_iff`, `isNaN_sub_of_left`, `isFinite_div_iff`, `isNaN_div_iff`).
-/
import Mathlib
import Meteo.Proofs.Number.Storing
import Meteo.Proofs.Number.Value

namespace Meteo.Double

set_option autoImplicit false

open Float.Model Float.Model.UnpackedFloat

/-! ## Finite operands -/

/-- The bounds of mantissa and exponent that the fields of a double give. -/
def Fits (x : UnpackedFloat) : Prop :=
  ∀ s m e h, x = .finite s m e h → m < 2 ^ 53 ∧ e ≤ 971

theorem fits_unpack (b : BitVec 64) : Fits (UnpackedFloat.unpack Format.binary64 b) := by
  intro s m e h unpacked
  rw [UnpackedFloat.unpack] at unpacked
  split at unpacked
  · split at unpacked <;> cases unpacked
  · next full =>
    have field : (@unpackExponent Format.binary64 b).toNat ≠ 2047 := fun top =>
      full (BitVec.eq_of_toNat_eq top)
    have bound : (@unpackExponent Format.binary64 b).toNat < 2 ^ 11 := BitVec.isLt _
    split at unpacked
    · split at unpacked
      · cases unpacked
      · next least _ =>
        cases unpacked
        have fraction : (@unpackMantissa Format.binary64 b).toNat < 2 ^ 52 :=
          BitVec.isLt _
        refine ⟨by omega, ?_⟩
        rw [least]
        decide
    · cases unpacked
      refine ⟨BitVec.isLt _, ?_⟩
      change ((@unpackExponent Format.binary64 b).toNat : ℤ) - (1023 + 52) ≤ 971
      omega

/-- The largest double. -/
def greatest : ℚ := 2 ^ (1024 : ℤ) - 2 ^ (971 : ℤ)

theorem greatest_add_half_lt_limit : greatest + 1 / 2 < limit := by
  have half : (1 / 2 : ℚ) < 2 ^ (970 : ℤ) :=
    calc (1 / 2 : ℚ) < 2 ^ (0 : ℤ) := by norm_num
      _ < 2 ^ (970 : ℤ) := zpow_lt_zpow_right₀ one_lt_two (by omega)
  have unit : (2 : ℚ) ^ (971 : ℤ) = 2 ^ (970 : ℤ) + 2 ^ (970 : ℤ) := by
    rw [← mul_two, ← zpow_add_one₀ two_ne_zero]
    rfl
  rw [greatest, limit, unit]
  generalize (2 : ℚ) ^ (970 : ℤ) = u at half
  linarith

theorem mul_zpow_le_greatest {m : ℕ} {e : ℤ} (small : m < 2 ^ 53) (low : e ≤ 971) :
    (m : ℚ) * 2 ^ e ≤ greatest := by
  have mantissa : (m : ℚ) ≤ 2 ^ 53 - 1 := by
    have cast : ((m + 1 : ℕ) : ℚ) ≤ (2 ^ 53 : ℕ) := Nat.cast_le.2 small
    push_cast at cast
    linarith
  have unit : (2 : ℚ) ^ e ≤ 2 ^ (971 : ℤ) := zpow_le_zpow_right₀ one_le_two low
  calc (m : ℚ) * 2 ^ e ≤ (2 ^ 53 - 1) * 2 ^ (971 : ℤ) :=
        mul_le_mul mantissa unit (zpow_pos two_pos e).le (by norm_num)
    _ = greatest := by
        rw [sub_mul, one_mul, ← zpow_natCast, ← zpow_add₀ two_ne_zero]
        rfl

theorem mul_zpow_lt_limit {m : ℕ} {e : ℤ} (small : m < 2 ^ 53) (low : e ≤ 971) :
    (m : ℚ) * 2 ^ e < limit :=
  (mul_zpow_le_greatest small low).trans_lt
    ((lt_add_of_pos_right _ one_half_pos).trans greatest_add_half_lt_limit)

theorem stores_operand (s : Sign) {m : ℕ} {e : ℤ} (h : 0 < m) (small : m < 2 ^ 53)
    (low : e ≤ 971) : Stores (.finite s m e h) (m * 2 ^ e) :=
  stores_finite s m h
    (iff_of_false (not_le_of_gt (mul_zpow_lt_limit small low)) (by omega))

/-- The fraction that an unpacked double stands for. -/
def fractionOf (x : UnpackedFloat) : ℚ := (Exact.ofUnpacked x).value

theorem fractionOf_zero (s : Sign) : fractionOf (.zero s) = 0 := by
  cases s <;> exact zero_mul _

theorem fractionOf_finite (s : Sign) (m : ℕ) (e : ℤ) (h : 0 < m) :
    fractionOf (.finite s m e h) = s.apply m * 2 ^ e := by
  cases s <;> rfl

theorem abs_fractionOf_finite (s : Sign) (m : ℕ) (e : ℤ) (h : 0 < m) :
    |fractionOf (.finite s m e h)| = m * 2 ^ e := by
  have magnitude : (0 : ℚ) ≤ m * 2 ^ e :=
    mul_nonneg (Nat.cast_nonneg m) (zpow_pos two_pos e).le
  rw [fractionOf_finite]
  cases s
  · rw [Sign.apply, Int.cast_neg, neg_mul, abs_neg, Int.cast_natCast, abs_of_nonneg magnitude]
  · rw [Sign.apply, Int.cast_natCast, abs_of_nonneg magnitude]

theorem apply_shiftLeft (s : Sign) (m k : ℕ) (e : ℤ) :
    ((s.apply (m <<< k : ℕ) : ℤ) : ℚ) * 2 ^ (e - k) = (s.apply m : ℤ) * 2 ^ e := by
  cases s
  · simp only [Sign.apply, Int.cast_neg, Int.cast_natCast, neg_mul, shiftLeft_mul_zpow]
  · simp only [Sign.apply, Int.cast_natCast, shiftLeft_mul_zpow]

/-! ## Differences and quotients -/

/-- The exact difference of two doubles, both brought to the lesser of their exponents. -/
theorem sub_fractionOf_finite (s t : Sign) {m n : ℕ} {e f : ℤ} (hm : 0 < m) (hn : 0 < n) :
    fractionOf (.finite s m e hm) - fractionOf (.finite t n f hn) =
      ((s.apply (m <<< (e - min e f).toNat : ℕ) -
          t.apply (n <<< (f - min e f).toNat : ℕ) : ℤ) : ℚ) * 2 ^ min e f := by
  have least (g : ℤ) (h : min e f ≤ g) : g - (g - min e f).toNat = min e f := by omega
  have first := apply_shiftLeft s m (e - min e f).toNat e
  have second := apply_shiftLeft t n (f - min e f).toNat f
  rw [least e (min_le_left _ _)] at first
  rw [least f (min_le_right _ _)] at second
  rw [fractionOf_finite, fractionOf_finite, ← first, ← second, ← sub_mul, Int.cast_sub]

theorem stores_sub_finite (s t : Sign) {m n : ℕ} {e f : ℤ} (hm : 0 < m) (hn : 0 < n) :
    Stores (UnpackedFloat.sub Format.binary64 (.finite s m e hm) (.finite t n f hn))
      |fractionOf (.finite s m e hm) - fractionOf (.finite t n f hn)| := by
  rw [UnpackedFloat.sub, sub_fractionOf_finite, abs_mul,
    abs_of_pos (zpow_pos (two_pos : (0 : ℚ) < 2) _), ← Int.cast_abs]
  exact stores_normalize _ _ _

theorem stores_sub {x y : UnpackedFloat} (fitsX : Fits x) (fitsY : Fits y)
    (finiteX : x.isFinite = true) (finiteY : y.isFinite = true) :
    Stores (UnpackedFloat.sub Format.binary64 x y) |fractionOf x - fractionOf y| := by
  cases x with
  | infinity s => cases finiteX
  | notANumber => cases finiteX
  | zero s =>
      cases y with
      | infinity t => cases finiteY
      | notANumber => cases finiteY
      | zero t =>
          rw [fractionOf_zero, fractionOf_zero, sub_zero, abs_zero, UnpackedFloat.sub]
          split <;> exact stores_zero _
      | finite t n f hn =>
          obtain ⟨small, low⟩ := fitsY t n f hn rfl
          rw [fractionOf_zero, zero_sub, abs_neg, abs_fractionOf_finite]
          exact stores_operand (-t) hn small low
  | finite s m e hm =>
      cases y with
      | infinity t => cases finiteY
      | notANumber => cases finiteY
      | zero t =>
          obtain ⟨small, low⟩ := fitsX s m e hm rfl
          rw [fractionOf_zero, sub_zero, abs_fractionOf_finite]
          exact stores_operand s hm small low
      | finite t n f hn => exact stores_sub_finite s t hm hn

/-- The exponent with which a quotient is computed. -/
def quotientExponent (m : ℕ) (e : ℤ) (n : ℕ) (f : ℤ) : ℤ :=
  min (e - f) (max ((m.log2 : ℤ) + e - n.log2 - f - 53) (-1074))

theorem divCore_eq (m : ℕ) (e : ℤ) (n : ℕ) (f : ℤ) :
    divCore Format.binary64 m e n f =
      let t := quotientExponent m e n f
      let k := (e - f - t).toNat
      ((m <<< k) / n, t, accuracyOfFraction ((m <<< k) % n) n) := by
  have same : min (e - f)
      (Format.binary64.targetExponent (totalExponent m e - totalExponent n f)) =
        quotientExponent m e n f := by
    rw [quotientExponent, totalExponent, totalExponent, Format.targetExponent]
    change min (e - f) (max ((m.log2 : ℤ) + 1 + e - (n.log2 + 1 + f) - 53) (-1074)) = _
    omega
  rw [divCore, same]

/-- A quotient has 53 bits before it is rounded, or the least exponent. -/
theorem quotientExponent_le {m n : ℕ} (e f : ℤ) (hm : m ≠ 0) (hn : 0 < n) :
    quotientExponent m e n f ≤
      target ((m <<< (e - f - quotientExponent m e n f).toNat) / n)
        (quotientExponent m e n f) := by
  rw [target_eq]
  rcases le_or_gt (quotientExponent m e n f) (-1074) with least | above
  · exact le_max_of_le_right least
  · refine le_max_of_le_left ?_
    have bits : n.log2 + 1 + 52 ≤ m.log2 + (e - f - quotientExponent m e n f).toNat := by
      rw [quotientExponent] at above ⊢
      omega
    have enough : 2 ^ 52 ≤ (m <<< (e - f - quotientExponent m e n f).toNat) / n := by
      rw [Nat.le_div_iff_mul_le hn, Nat.shiftLeft_eq]
      calc 2 ^ 52 * n ≤ 2 ^ 52 * 2 ^ (n.log2 + 1) :=
            Nat.mul_le_mul_left _ Nat.lt_log2_self.le
        _ = 2 ^ (n.log2 + 1 + 52) := by rw [pow_add 2 (n.log2 + 1) 52, mul_comm]
        _ ≤ 2 ^ (m.log2 + (e - f - quotientExponent m e n f).toNat) :=
            Nat.pow_le_pow_right two_pos bits
        _ = 2 ^ m.log2 * 2 ^ (e - f - quotientExponent m e n f).toNat := pow_add _ _ _
        _ ≤ m * 2 ^ (e - f - quotientExponent m e n f).toNat :=
            Nat.mul_le_mul_right _ (Nat.log2_self_le hm)
    have positive : (m <<< (e - f - quotientExponent m e n f).toNat) / n ≠ 0 :=
      ((Nat.two_pow_pos 52).trans_le enough).ne'
    have := (Nat.le_log2 positive).2 enough
    omega

theorem stores_div_finite (s t : Sign) {m n : ℕ} {e f : ℤ} (hm : 0 < m) (hn : 0 < n) :
    Stores (UnpackedFloat.div Format.binary64 (.finite s m e hm) (.finite t n f hn))
      (|fractionOf (.finite s m e hm)| / |fractionOf (.finite t n f hn)|) := by
  rw [UnpackedFloat.div, divCore_eq, abs_fractionOf_finite, abs_fractionOf_finite]
  dsimp only
  have shifted : e - f - (e - f - quotientExponent m e n f).toNat = quotientExponent m e n f := by
    have : quotientExponent m e n f ≤ e - f := min_le_left _ _
    omega
  have magnitude : (m : ℚ) * 2 ^ e / (n * 2 ^ f) =
      ((m <<< (e - f - quotientExponent m e n f).toNat : ℕ) : ℚ) / n *
        2 ^ quotientExponent m e n f := by
    have moved := shiftLeft_mul_zpow m (e - f - quotientExponent m e n f).toNat (e - f)
    rw [shifted] at moved
    rw [div_mul_eq_mul_div, moved, zpow_sub₀ two_ne_zero]
    field_simp
  rw [magnitude]
  exact stores_roundWithAccuracy (halves_div _ hn) (quotientExponent_le e f hm.ne' hn) _

theorem stores_div {x y : UnpackedFloat} (finiteX : x.isFinite = true)
    (finiteY : y.isFinite = true) (divides : fractionOf y ≠ 0) :
    Stores (UnpackedFloat.div Format.binary64 x y) (|fractionOf x| / |fractionOf y|) := by
  cases y with
  | infinity t => cases finiteY
  | notANumber => cases finiteY
  | zero t => exact absurd (fractionOf_zero t) divides
  | finite t n f hn =>
      cases x with
      | infinity s => cases finiteX
      | notANumber => cases finiteX
      | zero s =>
          rw [fractionOf_zero, abs_zero, zero_div]
          exact stores_zero _
      | finite s m e hm => exact stores_div_finite s t hm hn

/-! ## Operands that are not finite -/

section Limits

variable (u v : UnpackedFloat) (s t : Sign)

theorem sub_notANumber_left : UnpackedFloat.sub Format.binary64 .notANumber v = .notANumber := by
  cases v <;> rfl

theorem sub_notANumber_right : UnpackedFloat.sub Format.binary64 u .notANumber = .notANumber := by
  cases u <;> rfl

theorem div_notANumber_left : UnpackedFloat.div Format.binary64 .notANumber v = .notANumber := by
  cases v <;> rfl

theorem div_notANumber_right : UnpackedFloat.div Format.binary64 u .notANumber = .notANumber := by
  cases u <;> rfl

variable {u v}

theorem sub_infinity_left (finite : v.isFinite = true) :
    UnpackedFloat.sub Format.binary64 (.infinity s) v = .infinity s := by
  cases v with
  | infinity t => cases finite
  | notANumber => cases finite
  | zero t => rfl
  | finite t n f h => rfl

theorem sub_infinity_right (finite : u.isFinite = true) :
    UnpackedFloat.sub Format.binary64 u (.infinity t) = .infinity (-t) := by
  cases u with
  | infinity s => cases finite
  | notANumber => cases finite
  | zero s => rfl
  | finite s m e h => rfl

theorem isFinite_sub_infinities :
    (stored (UnpackedFloat.sub Format.binary64 (.infinity s) (.infinity t))).isFinite = false := by
  rw [UnpackedFloat.sub]
  split
  · rw [stored_infinity]
    rfl
  · rw [stored_notANumber]
    rfl

theorem div_infinities :
    UnpackedFloat.div Format.binary64 (.infinity s) (.infinity t) = .notANumber := rfl

theorem div_infinity_left (finite : v.isFinite = true) :
    ∃ r, UnpackedFloat.div Format.binary64 (.infinity s) v = .infinity r := by
  cases v with
  | infinity t => cases finite
  | notANumber => cases finite
  | zero t => exact ⟨_, rfl⟩
  | finite t n f h => exact ⟨_, rfl⟩

theorem div_infinity_right (finite : u.isFinite = true) :
    ∃ r, UnpackedFloat.div Format.binary64 u (.infinity t) = .zero r := by
  cases u with
  | infinity s => cases finite
  | notANumber => cases finite
  | zero s => exact ⟨_, rfl⟩
  | finite s m e h => exact ⟨_, rfl⟩

end Limits

/-! ## Doubles -/

/-- What a double is, when it is not finite. -/
theorem unpack_cases (x : UnpackedFloat) :
    x = .notANumber ∨ (∃ s, x = .infinity s) ∨ x.isFinite = true := by
  cases x with
  | infinity s => exact .inr (.inl ⟨s, rfl⟩)
  | notANumber => exact .inl rfl
  | zero s => exact .inr (.inr rfl)
  | finite s m e h => exact .inr (.inr rfl)

theorem isNaN_of_isFinite {x : UnpackedFloat} (finite : x.isFinite = true) : x.isNaN = false := by
  cases x with
  | infinity s => rfl
  | notANumber => cases finite
  | zero s => rfl
  | finite s m e h => rfl

section Doubles

open Ordinate

variable {x y : Float}

theorem value_eq (x : Float) : value x = fractionOf x.toModel.unpack := by
  rw [value, fractionOf, Exact.ofFloat_eq]

theorem fits (x : Float) : Fits x.toModel.unpack := fits_unpack _

theorem unpack_sub (x y : Float) : (x - y).toModel.unpack =
    stored (UnpackedFloat.sub Format.binary64 x.toModel.unpack y.toModel.unpack) := rfl

theorem unpack_div (x y : Float) : (x / y).toModel.unpack =
    stored (UnpackedFloat.div Format.binary64 x.toModel.unpack y.toModel.unpack) := rfl

theorem abs_value_le (finite : isFinite x = true) : |value x| ≤ greatest := by
  change x.toModel.unpack.isFinite = true at finite
  have bounds := fits x
  rw [value_eq]
  cases unpacked : x.toModel.unpack with
  | infinity s => rw [unpacked] at finite; cases finite
  | notANumber => rw [unpacked] at finite; cases finite
  | zero s =>
      rw [fractionOf_zero, abs_zero]
      exact sub_nonneg.2 (zpow_le_zpow_right₀ one_le_two (by omega))
  | finite s m e h =>
      obtain ⟨small, low⟩ := bounds s m e h unpacked
      rw [abs_fractionOf_finite]
      exact mul_zpow_le_greatest small low

theorem operands_of_isFinite_sub {u v : UnpackedFloat}
    (finite : (stored (UnpackedFloat.sub Format.binary64 u v)).isFinite = true) :
    u.isFinite = true ∧ v.isFinite = true := by
  rcases unpack_cases u with rfl | ⟨s, rfl⟩ | fu <;>
    rcases unpack_cases v with rfl | ⟨t, rfl⟩ | fv
  · rw [sub_notANumber_left, stored_notANumber] at finite; cases finite
  · rw [sub_notANumber_left, stored_notANumber] at finite; cases finite
  · rw [sub_notANumber_left, stored_notANumber] at finite; cases finite
  · rw [sub_notANumber_right, stored_notANumber] at finite; cases finite
  · rw [isFinite_sub_infinities] at finite; cases finite
  · rw [sub_infinity_left s fv, stored_infinity] at finite; cases finite
  · rw [sub_notANumber_right, stored_notANumber] at finite; cases finite
  · rw [sub_infinity_right t fu, stored_infinity] at finite; cases finite
  · exact ⟨fu, fv⟩

/-- A difference of doubles is finite if both are and their exact difference lies within
`limit`. -/
theorem isFinite_sub_iff : isFinite (x - y) = true ↔
    isFinite x = true ∧ isFinite y = true ∧ |value x - value y| < limit := by
  have both (fx : isFinite x = true) (fy : isFinite y = true) :=
    (stores_sub (fits x) (fits y) fx fy).isFinite
  rw [← unpack_sub, ← value_eq, ← value_eq] at both
  constructor
  · intro finite
    obtain ⟨fx, fy⟩ := operands_of_isFinite_sub finite
    exact ⟨fx, fy, (both fx fy).1 finite⟩
  · rintro ⟨fx, fy, near⟩
    exact (both fx fy).2 near

/-- Subtracting from a finite double makes no number only of what is none. -/
theorem isNaN_sub_of_left (finite : isFinite x = true) : isNaN (x - y) = isNaN y := by
  change (stored (UnpackedFloat.sub Format.binary64 x.toModel.unpack y.toModel.unpack)).isNaN =
    y.toModel.unpack.isNaN
  rcases unpack_cases y.toModel.unpack with missing | ⟨t, beyond⟩ | fy
  · rw [missing, sub_notANumber_right, stored_notANumber]
  · rw [beyond, sub_infinity_right t finite, stored_infinity]
    rfl
  · rw [(stores_sub (fits x) (fits y) finite fy).isNaN, isNaN_of_isFinite fy]

/-- Subtracting a finite double makes no number only of what is none. -/
theorem isNaN_sub_of_right (finite : isFinite y = true) : isNaN (x - y) = isNaN x := by
  change (stored (UnpackedFloat.sub Format.binary64 x.toModel.unpack y.toModel.unpack)).isNaN =
    x.toModel.unpack.isNaN
  rcases unpack_cases x.toModel.unpack with missing | ⟨s, beyond⟩ | fx
  · rw [missing, sub_notANumber_left, stored_notANumber]
  · rw [beyond, sub_infinity_left s finite, stored_infinity]
  · rw [(stores_sub (fits x) (fits y) fx finite).isNaN, isNaN_of_isFinite fx]

theorem unpack_of_isNaN (missing : isNaN x = true) : x.toModel.unpack = .notANumber :=
  UnpackedFloat.isNaN_iff.1 missing

/-- What is no number differs from nothing by a number, nor anything from it. -/
theorem isNaN_sub_of_or (missing : isNaN x = true ∨ isNaN y = true) : isNaN (x - y) = true := by
  change (stored (UnpackedFloat.sub Format.binary64 x.toModel.unpack y.toModel.unpack)).isNaN = true
  rcases missing with first | second
  · rw [unpack_of_isNaN first, sub_notANumber_left, stored_notANumber, UnpackedFloat.isNaN]
  · rw [unpack_of_isNaN second, sub_notANumber_right, stored_notANumber, UnpackedFloat.isNaN]

theorem isNaN_abs (x : Float) : isNaN (abs x) = isNaN x := by
  have bounds := fits x
  change (stored x.toModel.unpack.abs).isNaN = x.toModel.unpack.isNaN
  cases unpacked : x.toModel.unpack with
  | infinity s => rw [UnpackedFloat.abs, stored_infinity]; rfl
  | notANumber => rw [UnpackedFloat.abs, stored_notANumber]
  | zero s => rw [UnpackedFloat.abs, stored_zero]; rfl
  | finite s m e h =>
      obtain ⟨small, low⟩ := bounds s m e h unpacked
      exact (stores_operand .positive h small low).isNaN

/-- What is no number equals nothing. -/
theorem eq_of_or (missing : isNaN x = true ∨ isNaN y = true) : eq x y = false := by
  change x.toModel.unpack.beq y.toModel.unpack = false
  rcases missing with first | second
  · rw [unpack_of_isNaN first]
    cases y.toModel.unpack <;> rfl
  · rw [unpack_of_isNaN second]
    cases x.toModel.unpack <;> rfl

theorem unpack_zero : (zero : Float).toModel.unpack = .zero .positive := by
  have bits : (zero : Float).toModel.toBits = 0 := by decide +kernel
  rw [Float.Model.unpack, bits]
  rfl

theorem fractionOf_eq_zero_iff {u : UnpackedFloat} (finite : u.isFinite = true) :
    fractionOf u = 0 ↔ ∃ s, u = .zero s := by
  cases u with
  | infinity s => cases finite
  | notANumber => cases finite
  | zero s => exact iff_of_true (fractionOf_zero s) ⟨s, rfl⟩
  | finite s m e h =>
      refine iff_of_false (fun none => ?_) (by rintro ⟨s, same⟩; cases same)
      have magnitude : (0 : ℚ) < m * 2 ^ e := mul_pos (Nat.cast_pos.2 h) (zpow_pos two_pos e)
      rw [← abs_fractionOf_finite s m e h, none, abs_zero] at magnitude
      exact lt_irrefl _ magnitude

theorem eq_zero_iff : eq y zero = true ↔ ∃ s, y.toModel.unpack = .zero s := by
  change y.toModel.unpack.beq (zero : Float).toModel.unpack = true ↔ _
  rw [unpack_zero]
  cases y.toModel.unpack with
  | infinity s => cases s <;> exact iff_of_false nofun nofun
  | notANumber => exact iff_of_false nofun nofun
  | zero s => exact iff_of_true rfl ⟨s, rfl⟩
  | finite s m e h => cases s <;> exact iff_of_false nofun nofun

theorem fractionOf_ne_zero (moves : eq y zero = false) (finite : isFinite y = true) :
    fractionOf y.toModel.unpack ≠ 0 := by
  rw [Ne, fractionOf_eq_zero_iff finite, ← eq_zero_iff, moves]
  exact Bool.false_ne_true

/-- What is divided by an infinite double vanishes, if it is finite. -/
theorem isFinite_div_infinity (u : UnpackedFloat) (t : Sign) :
    (stored (UnpackedFloat.div Format.binary64 u (.infinity t))).isFinite = u.isFinite := by
  rcases unpack_cases u with rfl | ⟨s, rfl⟩ | finite
  · rw [div_notANumber_left, stored_notANumber]
  · rw [div_infinities, stored_notANumber]
    rfl
  · obtain ⟨r, vanished⟩ := div_infinity_right t finite
    rw [vanished, stored_zero, finite]
    rfl

theorem isFinite_of_isFinite_div {u v : UnpackedFloat} (divisor : v.isFinite = true)
    (finite : (stored (UnpackedFloat.div Format.binary64 u v)).isFinite = true) :
    u.isFinite = true := by
  rcases unpack_cases u with rfl | ⟨s, rfl⟩ | dividend
  · rw [div_notANumber_left, stored_notANumber] at finite
    cases finite
  · obtain ⟨r, kept⟩ := div_infinity_left s divisor
    rw [kept, stored_infinity] at finite
    cases finite
  · exact dividend

/-- A quotient of doubles by one that is not zero is finite if the first one is, and the second one
is infinite or so large that the exact quotient lies within `limit`. -/
theorem isFinite_div_iff (moves : eq y zero = false) : isFinite (x / y) = true ↔
    isFinite x = true ∧ isNaN y = false ∧
      (isFinite y = true → |value x| < limit * |value y|) := by
  rcases unpack_cases y.toModel.unpack with missing | ⟨t, beyond⟩ | fy
  · have none : isNaN y = true := UnpackedFloat.isNaN_iff.2 missing
    refine iff_of_false (fun finite => ?_) fun all => Bool.noConfusion (none.symm.trans all.2.1)
    change (stored (UnpackedFloat.div _ _ y.toModel.unpack)).isFinite = true at finite
    rw [missing, div_notANumber_right, stored_notANumber] at finite
    cases finite
  · have number : isNaN y = false := congrArg UnpackedFloat.isNaN beyond
    have infinite : isFinite y = false := congrArg UnpackedFloat.isFinite beyond
    rw [number, infinite, and_iff_left ⟨rfl, fun no => Bool.noConfusion no⟩]
    change (stored (UnpackedFloat.div _ x.toModel.unpack y.toModel.unpack)).isFinite = true ↔
      x.toModel.unpack.isFinite = true
    rw [beyond, isFinite_div_infinity]
  · have number : isNaN y = false := isNaN_of_isFinite fy
    have divisor : 0 < |value y| := by
      rw [value_eq]
      exact abs_pos.2 (fractionOf_ne_zero moves fy)
    have both (fx : isFinite x = true) : isFinite (x / y) = true ↔
        |value x| < limit * |value y| := by
      have quotient := (stores_div fx fy (fractionOf_ne_zero moves fy)).isFinite
      rwa [← unpack_div, ← value_eq, ← value_eq, div_lt_iff₀ divisor] at quotient
    rw [and_iff_right number]
    constructor
    · intro finite
      have fx : isFinite x = true := isFinite_of_isFinite_div fy finite
      exact ⟨fx, fun _ => (both fx).1 finite⟩
    · rintro ⟨fx, near⟩
      exact (both fx).2 (near fy)

theorem isNaN_div_of_or (missing : isNaN x = true ∨ isNaN y = true) : isNaN (x / y) = true := by
  change (stored (UnpackedFloat.div Format.binary64 x.toModel.unpack y.toModel.unpack)).isNaN = true
  rcases missing with first | second
  · rw [unpack_of_isNaN first, div_notANumber_left, stored_notANumber, UnpackedFloat.isNaN]
  · rw [unpack_of_isNaN second, div_notANumber_right, stored_notANumber, UnpackedFloat.isNaN]

/-- A quotient is no number if one side is none, or both are infinite. -/
theorem isNaN_div_iff (moves : eq y zero = false) : isNaN (x / y) = true ↔
    isNaN x = true ∨ isNaN y = true ∨ isFinite x = false ∧ isFinite y = false := by
  change (stored (UnpackedFloat.div Format.binary64 x.toModel.unpack y.toModel.unpack)).isNaN =
    true ↔ x.toModel.unpack.isNaN = true ∨ y.toModel.unpack.isNaN = true ∨
      x.toModel.unpack.isFinite = false ∧ y.toModel.unpack.isFinite = false
  rcases unpack_cases x.toModel.unpack with missing | ⟨s, infinite⟩ | fx
  · rw [missing, div_notANumber_left, stored_notANumber]
    exact iff_of_true rfl (.inl rfl)
  · rw [infinite]
    rcases unpack_cases y.toModel.unpack with missing | ⟨t, beyond⟩ | fy
    · rw [missing, div_notANumber_right, stored_notANumber]
      exact iff_of_true rfl (.inr (.inl rfl))
    · rw [beyond, div_infinities, stored_notANumber]
      exact iff_of_true rfl (.inr (.inr ⟨rfl, rfl⟩))
    · obtain ⟨r, kept⟩ := div_infinity_left s fy
      rw [kept, stored_infinity, isNaN_of_isFinite fy, fy]
      exact iff_of_false nofun (by rintro (no | no | ⟨-, no⟩) <;> cases no)
  · rw [isNaN_of_isFinite fx, fx]
    rcases unpack_cases y.toModel.unpack with missing | ⟨t, beyond⟩ | fy
    · rw [missing, div_notANumber_right, stored_notANumber]
      exact iff_of_true rfl (.inr (.inl rfl))
    · obtain ⟨r, vanished⟩ := div_infinity_right t fx
      rw [beyond, vanished, stored_zero]
      exact iff_of_false nofun (by rintro (no | no | ⟨no, -⟩) <;> cases no)
    · rw [(stores_div fx fy (fractionOf_ne_zero moves fy)).isNaN, isNaN_of_isFinite fy]
      exact iff_of_false nofun (by rintro (no | no | ⟨no, -⟩) <;> cases no)

/-! ## One half -/

theorem ofFloat_half : Exact.ofFloat half = .finite false (2 ^ 52) (-53) := by
  decide +kernel

theorem value_half : value half = 1 / 2 := by
  rw [value, ofFloat_half, Exact.value, Exact.signed]
  norm_num

theorem isFinite_half : isFinite (half : Float) = true := by
  decide +kernel

/-- Half a step less does not make a finite number of steps infinite. -/
theorem isFinite_sub_half : isFinite (x - half) = isFinite x := by
  rw [Bool.eq_iff_iff, isFinite_sub_iff, value_half]
  refine ⟨fun all => all.1, fun finite => ⟨finite, isFinite_half, ?_⟩⟩
  calc |value x - 1 / 2| ≤ |value x| + |(1 / 2 : ℚ)| := abs_sub _ _
    _ = |value x| + 1 / 2 := by rw [abs_of_pos (one_half_pos : (0 : ℚ) < 1 / 2)]
    _ ≤ greatest + 1 / 2 := add_le_add_left (abs_value_le finite) _
    _ < limit := greatest_add_half_lt_limit

theorem isNaN_sub_half : isNaN (x - half) = isNaN x := isNaN_sub_of_right isFinite_half

end Doubles

end Meteo.Double
