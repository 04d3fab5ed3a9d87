/-
# Meteo.Proofs.Number.Double -- the order of doubles

Every double that is a number has a rank: first the sign, with zero between the
negative and the positive numbers and the infinities beyond them, then exponent and
mantissa, which fall where the number is negative.  Comparing doubles is comparing
ranks (`lt_iff_rank`, `le_iff_rank`), and the opposite of a double has the opposite
rank (`rank?_neg`), so doubles are an `OrderedOrdinate`, and a linear one.

The opposite is taken by packing what was unpacked with its sign turned;
`unpack_neg` says that nothing is lost on the way.
-/
import Mathlib
import Meteo.Proofs.Number.Order

namespace Meteo.Double

set_option autoImplicit false

open Float.Model Float.Model.UnpackedFloat

/-- Sign, exponent and mantissa in the order in which they decide a comparison. -/
abbrev Rank := ℤ ×ₗ ℤ ×ₗ ℤ

/-- The rank of a number among the doubles. -/
def rank? : UnpackedFloat → Option Rank
  | .notANumber => none
  | .infinity .negative => some (toLex (-2, toLex (0, 0)))
  | .finite .negative m e _ => some (toLex (-1, toLex (-e, -m)))
  | .zero _ => some (toLex (0, toLex (0, 0)))
  | .finite .positive m e _ => some (toLex (1, toLex (e, m)))
  | .infinity .positive => some (toLex (2, toLex (0, 0)))

theorem lt_iff_rank (x y : UnpackedFloat) :
    x.lt y = true ↔ ∃ a ∈ rank? x, ∃ b ∈ rank? y, a < b := by
  rcases x with (_ | _) | _ | _ | ⟨_ | _, m, e, _⟩ <;>
    rcases y with (_ | _) | _ | _ | ⟨_ | _, m', e', _⟩ <;>
    simp [UnpackedFloat.lt, UnpackedFloat.compare, rank?, Prod.Lex.lt_iff, Ordering.swap_eq_lt]
  · rfl
  · rw [Ordering.then_eq_gt, compare_gt_iff_gt, compare_eq_iff_eq, compare_gt_iff_gt]
  · rw [Ordering.then_eq_lt, compare_lt_iff_lt, compare_eq_iff_eq, compare_lt_iff_lt]

theorem le_iff_rank (x y : UnpackedFloat) :
    x.le y = true ↔ ∃ a ∈ rank? x, ∃ b ∈ rank? y, a ≤ b := by
  rcases x with (_ | _) | _ | _ | ⟨_ | _, m, e, _⟩ <;>
    rcases y with (_ | _) | _ | _ | ⟨_ | _, m', e', _⟩ <;>
    simp [UnpackedFloat.le, UnpackedFloat.compare, rank?, Prod.Lex.le_iff]
  · rfl
  · rfl
  · rfl
  · rfl
  · rw [Ordering.isGE_iff_ne_lt, Ordering.then_eq_lt, compare_lt_iff_lt, compare_eq_iff_eq,
      compare_lt_iff_lt]
    omega
  · rw [Ordering.isLE_iff_ne_gt, Ordering.then_eq_gt, compare_gt_iff_gt, compare_eq_iff_eq,
      compare_gt_iff_gt]
    omega

theorem rank?_neg (x : UnpackedFloat) : rank? x.neg = (rank? x).map (-·) := by
  rcases x with (_ | _) | _ | (_ | _) | ⟨_ | _, m, e, _⟩
  · rfl
  · rfl
  · rfl
  · rfl
  · rfl
  · change some (toLex (1, toLex (e, (m : ℤ)))) = some (toLex (1, toLex (- -e, - -(m : ℤ))))
    rw [neg_neg, neg_neg]
  · rfl

theorem isNaN_iff_rank (x : UnpackedFloat) : x.isNaN = true ↔ rank? x = none := by
  rcases x with (_ | _) | _ | _ | ⟨_ | _, m, e, _⟩ <;> simp [UnpackedFloat.isNaN, rank?]

theorem exists_rank {x : UnpackedFloat} (number : x.isNaN = false) : ∃ a, rank? x = some a := by
  rw [← Option.ne_none_iff_exists', Ne, ← isNaN_iff_rank, number]
  exact Bool.false_ne_true

theorem not_lt_bottom (x : UnpackedFloat) : x.lt (.infinity .negative) = false := by
  rcases x with (_ | _) | _ | _ | ⟨_ | _, m, e, _⟩ <;> rfl

theorem not_top_lt (x : UnpackedFloat) : UnpackedFloat.lt (.infinity .positive) x = false := by
  rcases x with (_ | _) | _ | _ | ⟨_ | _, m, e, _⟩ <;> rfl

theorem isFinite_of_lt_of_lt {x y z : UnpackedFloat} (h : x.lt y = true) (k : y.lt z = true) :
    y.isFinite = true := by
  rcases y with (_ | _) | _ | _ | _
  · rw [not_lt_bottom] at h
    cases h
  · rw [not_top_lt] at k
    cases k
  · cases k
  · rfl
  · rfl

/-- Turning the sign of what is unpacked is turning the sign bit. -/
theorem neg_unpack {spec : Format} (b : BitVec spec.numBits) :
    (UnpackedFloat.unpack spec b).neg =
      UnpackedFloat.unpack spec (packComponents spec (-Sign.ofBitVec (unpackSign b))
        (unpackExponent b) (unpackMantissa b)) := by
  unfold UnpackedFloat.unpack
  simp only [unpackMantissa_packComponents, unpackExponent_packComponents,
    unpackSign_packComponents, Sign.ofBitVec_toBitVec]
  split
  · split <;> rfl
  · split
    · split <;> rfl
    · rfl

theorem unpack_neg (x : Float) : (-x).toModel.unpack = x.toModel.unpack.neg := by
  change UnpackedFloat.unpack Format.binary64 (UnpackedFloat.pack Format.binary64
    (UnpackedFloat.unpack Format.binary64 x.toModel.toBits.toBitVec).neg) = 
    (UnpackedFloat.unpack Format.binary64 x.toModel.toBits.toBitVec).neg
  rw [neg_unpack, pack_unpack]
  split
  · next missing =>
    simp only [isNaNBits, decide_eq_true_eq] at missing
    rw [unpack_packedNaN, UnpackedFloat.unpack, if_pos missing.1, if_neg missing.2]
  · rfl

/-! ## Comparisons of doubles -/

/-- The rank of a double, if it is a number. -/
def rankOf (x : Float) : Option Rank := rank? x.toModel.unpack

theorem lt_iff (x y : Float) :
    Ordinate.lt x y = true ↔ ∃ a ∈ rankOf x, ∃ b ∈ rankOf y, a < b := by
  rw [rankOf, rankOf, ← lt_iff_rank]
  exact decide_eq_true_iff

theorem le_iff (x y : Float) :
    Ordinate.le x y = true ↔ ∃ a ∈ rankOf x, ∃ b ∈ rankOf y, a ≤ b := by
  rw [rankOf, rankOf, ← le_iff_rank]
  exact decide_eq_true_iff

theorem isNaN_iff (x : Float) : Ordinate.isNaN x = true ↔ rankOf x = none :=
  isNaN_iff_rank x.toModel.unpack

theorem rankOf_neg (x : Float) : rankOf (-x) = (rankOf x).map (-·) := by
  rw [rankOf, unpack_neg, rank?_neg, rankOf]

theorem ranks_rankOf : Ranks rankOf where
  lt_iff := lt_iff
  le_iff := le_iff
  isNaN_iff := isNaN_iff
  rank?_neg := rankOf_neg
  isFinite_of_lt_of_lt h k :=
    isFinite_of_lt_of_lt (decide_eq_true_iff.1 h) (decide_eq_true_iff.1 k)
  widest_eq _ := rfl
  hasOpposite_eq _ := rfl

end Meteo.Double

namespace Meteo

/-- Doubles are ordered, the infinite ones included, and any two that are numbers compare. -/
instance : LinearOrdinate Float := Double.ranks_rankOf.linearOrdinate

end Meteo
