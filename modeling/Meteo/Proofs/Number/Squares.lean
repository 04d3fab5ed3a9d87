/-
# Meteo.Proofs.Number.Squares -- sums of squares of doubles

A distance is a sum of two squares.  Whatever their roots are, and however products and sum are
rounded, it does not stand below zero (`position_add_squares`): the sign of a square is
positive, and so is that of a sum of two positive doubles.  No number and both zeros stand
at zero here.
-/
import Mathlib
import Meteo.Proofs.Number.Differences

namespace Meteo.Double

set_option autoImplicit false

open Float.Model Float.Model.UnpackedFloat

theorem unpack_add (x y : Float) : (x + y).toModel.unpack =
    stored (UnpackedFloat.add Format.binary64 x.toModel.unpack y.toModel.unpack) := rfl

theorem unpack_mul (x y : Float) : (x * y).toModel.unpack =
    stored (UnpackedFloat.mul Format.binary64 x.toModel.unpack y.toModel.unpack) := rfl

theorem sign_mul_self (s : Sign) : s * s = .positive := by
  cases s <;> rfl

/-- The square of a mantissa has the bits that rounding keeps, unless the exponent is too low. -/
theorem le_target_mul_self {m : ℕ} {e : ℤ} (canonical : Canonical m e) :
    e + e ≤ target (m * m) (e + e) := by
  rw [target_eq]
  rcases eq_or_lt_of_le canonical.least with lowest | above
  · omega
  · have bits : 104 ≤ (m * m).log2 := by
      have full := canonical.full above
      have square : 2 ^ 104 ≤ m * m := by nlinarith
      exact (Nat.le_log2 (by omega)).2 square
    omega

theorem position_stored_mul_self {u : UnpackedFloat} (packed : Packed u) :
    0 ≤ position (stored (UnpackedFloat.mul Format.binary64 u u)) := by
  cases u with
  | notANumber =>
      rw [UnpackedFloat.mul, stored_notANumber]
      rfl
  | infinity s =>
      rw [UnpackedFloat.mul, stored_infinity, sign_mul_self]
      exact beyond_pos.le
  | zero s =>
      rw [UnpackedFloat.mul, stored_zero]
      rfl
  | finite s m e h =>
      have fine := le_target_mul_self (packed s m e h rfl).1
      obtain ⟨n, f, rounds, same⟩ :=
        position_stored_roundWithAccuracy (sticky_exact (m * m)) fine (s * s)
      rw [UnpackedFloat.mul, same, sign_mul_self]
      exact le_min (place_nonneg rounds.least) beyond_pos.le

/-- A double stands where it stood when it is stored again. -/
theorem position_stored {u : UnpackedFloat} (packed : Packed u) :
    position (stored u) = position u := by
  cases u with
  | notANumber => rw [stored_notANumber]
  | infinity s => rw [stored_infinity]
  | zero s => rw [stored_zero]
  | finite s m e h =>
      obtain ⟨canonical, low⟩ := packed s m e h rfl
      rw [stored_finite_of_canonical s h canonical low]

theorem sign_of_infinity {s : Sign} (above : 0 ≤ position (.infinity s)) : s = .positive := by
  cases s with
  | positive => rfl
  | negative => exact absurd above (by decide)

theorem sign_of_finite {s : Sign} {m : ℕ} {e : ℤ} {h : 0 < m} (packed : Packed (.finite s m e h))
    (above : 0 ≤ position (.finite s m e h)) : s = .positive := by
  have place := packed.place_bounds.1
  cases s with
  | positive => rfl
  | negative =>
      change 0 ≤ -Double.place m e at above
      omega

theorem position_stored_add {u v : UnpackedFloat} (packedU : Packed u) (packedV : Packed v)
    (aboveU : 0 ≤ position u) (aboveV : 0 ≤ position v) :
    0 ≤ position (stored (UnpackedFloat.add Format.binary64 u v)) := by
  cases u with
  | notANumber => exact (congrArg position stored_notANumber).ge
  | infinity s =>
      cases sign_of_infinity aboveU
      cases v with
      | notANumber => exact (congrArg position stored_notANumber).ge
      | infinity t =>
          cases sign_of_infinity aboveV
          exact aboveU.trans_eq (position_stored packedU).symm
      | zero t => exact aboveU.trans_eq (position_stored packedU).symm
      | finite t n f k => exact aboveU.trans_eq (position_stored packedU).symm
  | zero s =>
      cases v with
      | notANumber => exact (congrArg position stored_notANumber).ge
      | infinity t => exact aboveV.trans_eq (position_stored packedV).symm
      | zero t =>
          rw [UnpackedFloat.add]
          split <;> exact (congrArg position (stored_zero _)).ge
      | finite t n f k => exact aboveV.trans_eq (position_stored packedV).symm
  | finite s m e h =>
      cases sign_of_finite packedU aboveU
      cases v with
      | notANumber => exact (congrArg position stored_notANumber).ge
      | infinity t => exact aboveV.trans_eq (position_stored packedV).symm
      | zero t => exact aboveU.trans_eq (position_stored packedU).symm
      | finite t n f k =>
          cases sign_of_finite packedV aboveV
          refine (stands_normalize _ _ .positive).nonneg (mul_nonneg ?_ (zpow_pos two_pos _).le)
          exact Int.cast_nonneg (add_nonneg (Int.natCast_nonneg _) (Int.natCast_nonneg _))

/-- A sum of two squares does not stand below zero. -/
theorem position_add_squares (x y : Float) : 0 ≤ position (x * x + y * y).toModel.unpack := by
  have packed (a : Float) : Packed a.toModel.unpack := packed_unpack _
  have square (a : Float) : 0 ≤ position (a * a).toModel.unpack := by
    rw [unpack_mul]
    exact position_stored_mul_self (packed a)
  rw [unpack_add]
  exact position_stored_add (packed (x * x)) (packed (y * y)) (square x) (square y)

end Meteo.Double
