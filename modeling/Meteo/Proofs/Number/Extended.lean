/-
# Meteo.Proofs.Number.Extended -- exact arithmetic with infinities and missing numbers

Positions that are read from a dataset may be infinite or missing.  Doubles have both, but
their arithmetic is rounded as well, and overflows.  `Extended` keeps the two apart: finite
numbers are computed exactly, as fractions, and what is infinite or no number is treated as
doubles treat it.  Zero has no sign, so what is divided by it takes the sign of the dividend.

Ranks are those of doubles with a fraction in the middle (`ranks_rank?`), so these numbers have
the laws of comparison, and what comes of missing numbers is missing (`PartialOrdinate`).
-/
import Mathlib
import Meteo.Proofs.Number.Order

namespace Meteo

set_option autoImplicit false

/-- A fraction, or what lies beyond all of them on either side, or no number at all. -/
inductive Extended where
  | missing
  | infinite (negative : Bool)
  | finite (x : ℚ)
  deriving DecidableEq

namespace Extended

/-- The number on the other side of zero. -/
def neg : Extended → Extended
  | missing => missing
  | infinite negative => infinite !negative
  | finite x => finite (-x)

/-- Infinities on opposite sides have no sum. -/
def add : Extended → Extended → Extended
  | finite x, finite y => finite (x + y)
  | infinite a, infinite b => if a = b then infinite a else missing
  | infinite a, finite _ => infinite a
  | finite _, infinite b => infinite b
  | _, _ => missing

/-- Zero times an infinity is no number. -/
def mul : Extended → Extended → Extended
  | finite x, finite y => finite (x * y)
  | infinite a, infinite b => infinite (a != b)
  | infinite a, finite y => if y = 0 then missing else infinite (a != decide (y < 0))
  | finite x, infinite b => if x = 0 then missing else infinite (b != decide (x < 0))
  | _, _ => missing

/-- What is divided by zero is infinite, unless it is zero itself. -/
def div : Extended → Extended → Extended
  | finite x, finite y =>
      if y ≠ 0 then finite (x / y) else if x = 0 then missing else infinite (decide (x < 0))
  | infinite a, finite y => infinite (a != decide (y < 0))
  | finite _, infinite _ => finite 0
  | _, _ => missing

/-- The infinities lie beyond all fractions; what is missing is nowhere. -/
def lt : Extended → Extended → Bool
  | finite x, finite y => decide (x < y)
  | infinite a, infinite b => a && !b
  | infinite a, finite _ => a
  | finite _, infinite b => !b
  | _, _ => false

/-- At most; false when either side is missing. -/
def le : Extended → Extended → Bool
  | finite x, finite y => decide (x ≤ y)
  | infinite a, infinite b => a || !b
  | infinite a, finite _ => a
  | finite _, infinite b => !b
  | _, _ => false

/-- Equal as numbers; false when either side is missing. -/
def eq : Extended → Extended → Bool
  | finite x, finite y => decide (x = y)
  | infinite a, infinite b => a == b
  | _, _ => false

/-- The distance from zero. -/
def abs : Extended → Extended
  | missing => missing
  | infinite _ => infinite false
  | finite x => finite |x|

/-- Neither infinite nor missing. -/
def isFinite : Extended → Bool
  | finite _ => true
  | _ => false

/-- No number at all. -/
def isNaN : Extended → Bool
  | missing => true
  | _ => false

/-- The ceiling of a fraction; the others have none. -/
def ceil? : Extended → Except Unrounded Int
  | missing => .error .notANumber
  | infinite _ => .error .infinite
  | finite x => .ok ⌈x⌉

/-- The remainder in `[0, n)`; there is none of what is not finite. -/
def wrap : Extended → Nat → Extended
  | finite x, n => finite (Ordinate.wrap x n)
  | _, _ => missing

/-- The remainder of least distance from zero. -/
def remainder? : Extended → Nat → Except Unrounded Extended
  | missing, _ => .ok missing
  | infinite _, _ => .error .infinite
  | finite x, n => (Ordinate.remainder? x n).map finite

end Extended

instance : Ordinate Extended where
  add := Extended.add
  sub x y := x.add y.neg
  mul := Extended.mul
  div := Extended.div
  neg := Extended.neg
  ofNat n := .finite n
  lt := Extended.lt
  le := Extended.le
  eq := Extended.eq
  abs := Extended.abs
  isFinite := Extended.isFinite
  isNaN := Extended.isNaN
  ceil? := Extended.ceil?
  wrap := Extended.wrap
  remainder? := Extended.remainder?
  widest x := x
  hasOpposite _ := true

namespace Extended

open Ordinate

/-! ## Order -/

/-- The side of an infinity, or the fraction. -/
abbrev Rank := ℤ ×ₗ ℚ

/-- The rank of a number. -/
def rank? : Extended → Option Rank
  | missing => none
  | infinite true => some (toLex (-1, 0))
  | finite x => some (toLex (0, x))
  | infinite false => some (toLex (1, 0))

theorem lt_iff (x y : Extended) :
    Ordinate.lt x y = true ↔ ∃ a ∈ rank? x, ∃ b ∈ rank? y, a < b := by
  change Extended.lt x y = true ↔ _
  rcases x with _ | (_ | _) | x <;> rcases y with _ | (_ | _) | y <;>
    simp [Extended.lt, rank?, Prod.Lex.lt_iff]

theorem le_iff (x y : Extended) :
    Ordinate.le x y = true ↔ ∃ a ∈ rank? x, ∃ b ∈ rank? y, a ≤ b := by
  change Extended.le x y = true ↔ _
  rcases x with _ | (_ | _) | x <;> rcases y with _ | (_ | _) | y <;>
    simp [Extended.le, rank?, Prod.Lex.le_iff]

theorem rank?_neg (x : Extended) : rank? (-x) = (rank? x).map (-·) := by
  rcases x with _ | (_ | _) | x <;> rfl

theorem isNaN_iff_rank (x : Extended) : Ordinate.isNaN x = true ↔ rank? x = none := by
  change Extended.isNaN x = true ↔ _
  rcases x with _ | (_ | _) | x <;> simp [Extended.isNaN, rank?]

theorem isFinite_of_lt_of_lt {x y z : Extended} (above : Ordinate.lt x y = true)
    (below : Ordinate.lt y z = true) : Ordinate.isFinite y = true := by
  change Extended.lt x y = true at above
  change Extended.lt y z = true at below
  rcases y with _ | (_ | _) | y
  · cases below
  · cases z <;> cases below
  · rcases x with _ | (_ | _) | x <;> cases above
  · rfl

theorem ranks_rank? : Ranks rank? where
  lt_iff := lt_iff
  le_iff := le_iff
  isNaN_iff := isNaN_iff_rank
  rank?_neg := rank?_neg
  isFinite_of_lt_of_lt := isFinite_of_lt_of_lt
  widest_eq _ := rfl
  hasOpposite_eq _ := rfl

instance : LinearOrdinate Extended := ranks_rank?.linearOrdinate

/-! ## Finite and missing numbers -/

theorem isFinite_iff {x : Extended} : Ordinate.isFinite x = true ↔ ∃ p, x = finite p := by
  change x.isFinite = true ↔ _
  cases x <;> simp [Extended.isFinite]

theorem isNaN_iff {x : Extended} : Ordinate.isNaN x = true ↔ x = missing := by
  change x.isNaN = true ↔ _
  cases x <;> simp [Extended.isNaN]

theorem finite_sub_finite (x y : ℚ) : finite x - finite y = finite (x - y) := by
  rw [sub_eq_add_neg x]
  rfl

theorem finite_div_finite (x : ℚ) {y : ℚ} (divides : y ≠ 0) :
    finite x / finite y = finite (x / y) :=
  if_pos divides

theorem infinite_sub_finite (a : Bool) (y : ℚ) : infinite a - finite y = infinite a := rfl

theorem finite_sub_infinite (x : ℚ) (a : Bool) : finite x - infinite a = infinite !a := rfl

theorem infinite_div_finite (a : Bool) (y : ℚ) :
    infinite a / finite y = infinite (a != decide (y < 0)) := rfl

theorem finite_div_infinite (x : ℚ) (a : Bool) : finite x / infinite a = finite 0 := rfl

theorem infinite_div_infinite (a b : Bool) : infinite a / infinite b = missing := rfl

theorem ofNat_eq (n : ℕ) : (Ordinate.ofNat n : Extended) = finite n := rfl

theorem half_eq : (half : Extended) = finite (1 / 2) := by
  rw [half, ofNat_eq, ofNat_eq, finite_div_finite _ (Nat.cast_ne_zero.2 two_ne_zero), Nat.cast_one,
    Nat.cast_ofNat]

/-- Differences of finite numbers are exact. -/
instance : RoundedOrdinate Extended where
  le_or_gt := ranks_rank?.le_or_gt
  isNaN_of_isFinite finite := by
    obtain ⟨p, rfl⟩ := isFinite_iff.1 finite
    rfl
  isNaN_sub finiteX finiteY := by
    obtain ⟨p, rfl⟩ := isFinite_iff.1 finiteX
    obtain ⟨q, rfl⟩ := isFinite_iff.1 finiteY
    rfl
  sub_le_sub finiteW finiteX finiteY finiteZ less more := by
    obtain ⟨w, rfl⟩ := isFinite_iff.1 finiteW
    obtain ⟨x, rfl⟩ := isFinite_iff.1 finiteX
    obtain ⟨y, rfl⟩ := isFinite_iff.1 finiteY
    obtain ⟨z, rfl⟩ := isFinite_iff.1 finiteZ
    rw [finite_sub_finite, finite_sub_finite]
    exact decide_eq_true (tsub_le_tsub (of_decide_eq_true less) (of_decide_eq_true more))

/-- What is computed from a missing number is missing. -/
instance : PartialOrdinate Extended where
  isNaN_abs x := by cases x <;> rfl
  isNaN_sub_of_isFinite {x y} finite := by
    obtain ⟨q, rfl⟩ := isFinite_iff.1 finite
    cases x <;> rfl
  isNaN_sub_of_or {x y} either := by
    rcases either.imp isNaN_iff.1 isNaN_iff.1 with rfl | rfl
    · rfl
    · cases x <;> rfl
  isNaN_div_of_or {x y} either := by
    rcases either.imp isNaN_iff.1 isNaN_iff.1 with rfl | rfl
    · rfl
    · cases x <;> rfl
  eq_of_or {x y} either := by
    rcases either.imp isNaN_iff.1 isNaN_iff.1 with rfl | rfl
    · rfl
    · cases x <;> rfl
  isFinite_of_sub {x y} finite := by
    rcases x with _ | a | x <;> rcases y with _ | b | y
    · cases finite
    · cases finite
    · cases finite
    · cases finite
    · revert finite
      cases a <;> cases b <;> exact nofun
    · cases finite
    · cases finite
    · cases finite
    · exact ⟨rfl, rfl⟩
  ceil?_of_isNaN missing := by
    rw [isNaN_iff.1 missing]
    rfl

end Extended

end Meteo
