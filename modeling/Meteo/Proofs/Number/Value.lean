/-
# Meteo.Proofs.Number.Value -- the fractions that doubles stand for

`Exact.ofFloat` reads a double off its bits, while the arithmetic of doubles works on what is
unpacked from them; both read the same (`Exact.ofFloat_eq`).  So a double that is finite
stands for a fraction, `Double.value`, and it is the finite ones that have a ceiling
(`Double.ceil?_spec`).
-/
import Mathlib
import Meteo.Number.Ordinate

namespace Meteo

set_option autoImplicit false

open Float.Model Float.Model.UnpackedFloat

namespace Exact

/-- The fraction that a finite double stands for; zero stands in for the others. -/
def value : Exact → ℚ
  | .finite negative m e => signed negative m * 2 ^ e
  | _ => 0

/-- What is unpacked of a double, as its exact value. -/
def ofUnpacked : UnpackedFloat → Exact
  | .notANumber => .nan
  | .infinity s => .infinite (s == .negative)
  | .zero s => .finite (s == .negative) 0 (-1074)
  | .finite s m e _ => .finite (s == .negative) m e

theorem negative_unpackSign (b : BitVec 64) :
    (Sign.ofBitVec (@unpackSign Format.binary64 b) == .negative) =
      (b.toNat / Nat.pow 2 63 % 2 == 1) := by
  have bit : (@unpackSign Format.binary64 b).toNat = b.toNat / Nat.pow 2 63 % 2 := by
    rw [unpackSign_def, BitVec.extractLsb'_toNat, Nat.shiftRight_eq_div_pow]
    rfl
  rw [← bit]
  generalize @unpackSign Format.binary64 b = s
  revert s
  decide

theorem toNat_unpackExponent (b : BitVec 64) :
    (@unpackExponent Format.binary64 b).toNat = b.toNat / Nat.pow 2 52 % Nat.pow 2 11 := by
  rw [unpackExponent_def, BitVec.extractLsb'_toNat, Nat.shiftRight_eq_div_pow]
  rfl

theorem toNat_unpackMantissa (b : BitVec 64) :
    (@unpackMantissa Format.binary64 b).toNat = b.toNat % Nat.pow 2 52 := by
  rw [unpackMantissa_def, BitVec.extractLsb'_toNat, Nat.shiftRight_zero]
  rfl

/-- The bit in front of the fraction of a normal double. -/
theorem toNat_implicit (m : BitVec 52) : (1#1 ++ m).toNat = m.toNat + Nat.pow 2 52 := by
  rw [BitVec.toNat_append, Nat.or_comm]
  exact Nat.or_two_pow_eq_add_of_lt m.isLt

/-- Reading the fields of a double by division is reading what is unpacked from its bits. -/
theorem ofFloat_eq (x : Float) : ofFloat x = ofUnpacked x.toModel.unpack := by
  change ofFloat x = ofUnpacked (UnpackedFloat.unpack Format.binary64 x.toBits.toBitVec)
  have bits : x.toBits.toNat = x.toBits.toBitVec.toNat := rfl
  rw [ofFloat, bits]
  generalize x.toBits.toBitVec = b
  rw [← negative_unpackSign b, ← toNat_unpackExponent b, ← toNat_unpackMantissa b,
    UnpackedFloat.unpack]
  have full : @unpackExponent Format.binary64 b = -1#_ ↔
      (@unpackExponent Format.binary64 b).toNat = 2047 := by
    rw [← BitVec.toNat_inj]
    rfl
  have least : @unpackExponent Format.binary64 b = 0#_ ↔
      (@unpackExponent Format.binary64 b).toNat = 0 := by
    rw [← BitVec.toNat_inj]
    rfl
  have none : @unpackMantissa Format.binary64 b = 0#_ ↔
      (@unpackMantissa Format.binary64 b).toNat = 0 := by
    rw [← BitVec.toNat_inj]
    rfl
  simp only [full, least, none]
  split
  · split <;> rfl
  · split
    · next subnormal =>
      split
      · next zero =>
        rw [zero]
        rfl
      · rw [subnormal]
        rfl
    · rw [ofUnpacked, toNat_implicit]
      rfl

theorem value_fraction (negative : Bool) (m : ℕ) (e : ℤ) :
    ((signed negative (fraction m e).1 : ℤ) : ℚ) / (fraction m e).2 =
      value (.finite negative m e) := by
  have scaled (n : ℕ) (r : ℚ) (h : (n : ℚ) = m * r) :
      ((signed negative n : ℤ) : ℚ) = ((signed negative m : ℤ) : ℚ) * r := by
    cases negative
    · simpa [signed] using h
    · simp [signed, h]
  have power (k : ℕ) : ((Nat.pow 2 k : ℕ) : ℚ) = 2 ^ k := by
    rw [Nat.pow_eq]
    push_cast
    rfl
  rw [fraction, value]
  split
  · next whole =>
    obtain ⟨k, rfl⟩ := Int.eq_ofNat_of_zero_le whole
    rw [Nat.cast_one, div_one, zpow_natCast]
    refine scaled _ _ ?_
    rw [Nat.cast_mul, power, Int.toNat_natCast]
  · next broken =>
    obtain ⟨k, rfl⟩ := Int.exists_eq_neg_ofNat (by omega : e ≤ 0)
    rw [neg_neg, Int.toNat_natCast, zpow_neg, zpow_natCast, power, div_eq_mul_inv]

theorem ceil?_finite (negative : Bool) (m : ℕ) (e : ℤ) :
    ceil? (.finite negative m e) = some ⌈value (.finite negative m e)⌉ := by
  rw [← value_fraction, ceil?]
  dsimp only
  rw [Int.fdiv_eq_ediv_of_nonneg _ (Int.natCast_nonneg _), ← Rat.floor_intCast_div_natCast,
    Int.cast_neg, neg_div, Int.floor_neg, neg_neg]

end Exact

namespace Double

open Ordinate

/-- The fraction that a finite double stands for; zero stands in for the others. -/
def value (x : Float) : ℚ := (Exact.ofFloat x).value

theorem ofFloat_of_isNaN {x : Float} (missing : isNaN x = true) : Exact.ofFloat x = .nan := by
  have unpacked : x.toModel.unpack = .notANumber := UnpackedFloat.isNaN_iff.1 missing
  rw [Exact.ofFloat_eq, unpacked]
  rfl

theorem ofFloat_of_isFinite {x : Float} (finite : isFinite x = true) :
    ∃ negative m e, Exact.ofFloat x = .finite negative m e := by
  change x.toModel.unpack.isFinite = true at finite
  rw [Exact.ofFloat_eq]
  cases unpacked : x.toModel.unpack with
  | infinity s => rw [unpacked] at finite; cases finite
  | notANumber => rw [unpacked] at finite; cases finite
  | zero s => exact ⟨_, _, _, rfl⟩
  | finite s m e h => exact ⟨_, _, _, rfl⟩

theorem ofFloat_of_infinite {x : Float} (number : isNaN x = false) (beyond : isFinite x = false) :
    ∃ negative, Exact.ofFloat x = .infinite negative := by
  change x.toModel.unpack.isNaN = false at number
  change x.toModel.unpack.isFinite = false at beyond
  rw [Exact.ofFloat_eq]
  cases unpacked : x.toModel.unpack with
  | infinity s => exact ⟨_, rfl⟩
  | notANumber => rw [unpacked] at number; cases number
  | zero s => rw [unpacked] at beyond; cases beyond
  | finite s m e h => rw [unpacked] at beyond; cases beyond

/-! ## Ceilings -/

theorem ceil?_of_isNaN {x : Float} (missing : isNaN x = true) :
    ceil? x = .error .notANumber := by
  rw [ceil?, ofFloat_of_isNaN missing]

theorem ceil?_of_isFinite {x : Float} (finite : isFinite x = true) :
    ceil? x = .ok ⌈value x⌉ := by
  obtain ⟨negative, m, e, read⟩ := ofFloat_of_isFinite finite
  rw [ceil?, value, read]
  dsimp only
  rw [Exact.ceil?_finite]

theorem ceil?_of_infinite {x : Float} (number : isNaN x = false) (beyond : isFinite x = false) :
    ceil? x = .error .infinite := by
  obtain ⟨negative, read⟩ := ofFloat_of_infinite number beyond
  rw [ceil?, read]

/-- A double has no ceiling because it is no number, or because it is infinite. -/
theorem ceil?_eq_error_iff {x : Float} {why : Unrounded} : ceil? x = .error why ↔
    why = .notANumber ∧ isNaN x = true ∨
      why = .infinite ∧ isNaN x = false ∧ isFinite x = false := by
  cases number : isNaN x with
  | true =>
      rw [ceil?_of_isNaN number]
      cases why <;> simp
  | false =>
      cases bounded : isFinite x with
      | true =>
          rw [ceil?_of_isFinite bounded]
          simp
      | false =>
          rw [ceil?_of_infinite number bounded]
          cases why <;> simp

end Double

end Meteo
