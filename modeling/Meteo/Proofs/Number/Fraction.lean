/-
# Meteo.Proofs.Number.Fraction -- the operations on fractions are those of the rationals

Axes, boxes and distances are computed in any `Ordinate`.  Read over fractions, each
operation is the usual one on the rationals; the equations here turn a formula over
`Ordinate ℚ` into one that arithmetic on `ℚ` can take up.
-/
import Mathlib.Algebra.Order.Group.Unbundled.Abs
import Mathlib.Data.Rat.Floor
import Meteo.Number.Ordinate

namespace Meteo.Fraction

set_option autoImplicit false

open Ordinate

@[simp] theorem lt_eq (x y : ℚ) : Ordinate.lt x y = decide (x < y) := by
  rw [Bool.eq_iff_iff, decide_eq_true_iff]
  rfl

@[simp] theorem le_eq (x y : ℚ) : Ordinate.le x y = decide (x ≤ y) := by
  change (!Rat.blt y x) = decide (x ≤ y)
  rw [Bool.eq_iff_iff, decide_eq_true_iff, ← not_lt, Bool.not_eq_true']
  exact Bool.eq_false_iff

@[simp] theorem eq_eq (x y : ℚ) : Ordinate.eq x y = decide (x = y) := rfl

@[simp] theorem abs_eq (x : ℚ) : Ordinate.abs x = |x| := by
  change (if x.num < 0 then Rat.neg x else x) = |x|
  split
  · next negative =>
    rw [abs_of_neg (Rat.num_neg.1 negative)]
    rfl
  · next positive =>
    rw [not_lt, Rat.num_nonneg] at positive
    rw [abs_of_nonneg positive]

@[simp] theorem isNaN_eq (x : ℚ) : Ordinate.isNaN x = false := rfl

@[simp] theorem ofNat_eq (n : ℕ) : (Ordinate.ofNat n : ℚ) = n := rfl

@[simp] theorem zero_eq : (Ordinate.zero : ℚ) = 0 := rfl

@[simp] theorem half_eq : (Ordinate.half : ℚ) = 1 / 2 := rfl

@[simp] theorem ceil?_eq (x : ℚ) : Ordinate.ceil? x = .ok ⌈x⌉ := by
  change Except.ok x.ceil = Except.ok ⌈x⌉
  congr 1
  refine eq_of_forall_ge_iff fun k => ?_
  rw [Rat.ceil_le_iff, Int.ceil_le]

@[simp] theorem widest_eq (x : ℚ) : Ordinate.widest x = x := rfl

@[simp] theorem hasOpposite_eq (x : ℚ) : Ordinate.hasOpposite x = true := rfl

end Meteo.Fraction
