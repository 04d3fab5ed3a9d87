/-
# Meteo.Proofs.Number.Order -- the order of positions

The searches along an axis compare positions and, on a falling axis, their
opposites.  `OrderedOrdinate` collects the laws of comparison they rely on: what is
no number compares false with everything, the rest is ordered, and taking opposites
reverses the order.  Fractions have these laws, and so have doubles
(`Meteo.Proofs.Number.Double`), so what is said about a search over an
`OrderedOrdinate` holds of the search that runs.

At the edge of a cell it matters that any two numbers compare, which is what
`LinearOrdinate` adds.  Distances are differences, and differences of doubles are
rounded; `RoundedOrdinate` says that they are in the order of the exact ones all the
same, unless rounding makes two of them equal.  `PartialOrdinate` says what comes of
numbers some of which are missing.

Where numbers compare as their ranks in an ordered group do (`Ranks`), the laws of comparison
are those of the group.
-/
import Meteo.Proofs.Number.Fraction

namespace Meteo

set_option autoImplicit false

open Ordinate

/-- Positions that are ordered, apart from what is no number. -/
class OrderedOrdinate (α : Type) [Ordinate α] : Prop where
  lt_irrefl (x : α) : lt x x = false
  lt_trans {x y z : α} : lt x y → lt y z → lt x z
  lt_of_lt_of_le {x y z : α} : lt x y → le y z → lt x z
  lt_of_le_of_lt {x y z : α} : le x y → lt y z → lt x z
  le_of_lt {x y : α} : lt x y → le x y
  /-- What is no number is neither less nor greater than anything. -/
  isNaN_of_lt {x y : α} : lt x y → isNaN x = false ∧ isNaN y = false
  /-- Only a finite number has something on either side. -/
  isFinite_of_lt_of_lt {x y z : α} : lt x y → lt y z → isFinite y
  lt_neg_neg (x y : α) : lt (-x) (-y) = lt y x
  isNaN_neg (x : α) : isNaN (-x) = isNaN x
  widest_eq (x : α) : widest x = x
  hasOpposite_eq (x : α) : hasOpposite x = true

namespace OrderedOrdinate

variable {α : Type} [Ordinate α] [OrderedOrdinate α]

theorem not_lt_of_lt {x y : α} (h : lt x y) : lt y x = false := by
  cases back : lt y x with
  | false => rfl
  | true => rw [← lt_irrefl x, lt_trans h back]

theorem not_le_of_lt {x y : α} (h : lt x y) : le y x = false := by
  cases back : le y x with
  | false => rfl
  | true => rw [← lt_irrefl x, lt_of_lt_of_le h back]

theorem not_lt_of_le {x y : α} (h : le x y) : lt y x = false := by
  cases back : lt y x with
  | false => rfl
  | true => rw [← lt_irrefl x, lt_of_le_of_lt h back]

end OrderedOrdinate

/-- Positions any two of which compare, apart from what is no number. -/
class LinearOrdinate (α : Type) [Ordinate α] : Prop extends OrderedOrdinate α where
  le_trans {x y z : α} : le x y → le y z → le x z
  lt_of_le_of_not_le {x y : α} : le x y → le y x = false → lt x y
  isNaN_of_le {x y : α} : le x y → isNaN x = false ∧ isNaN y = false
  le_neg_neg (x y : α) : le (-x) (-y) = le y x

/-- Positions whose differences may be rounded, but not out of their order. -/
class RoundedOrdinate (α : Type) [Ordinate α] : Prop extends LinearOrdinate α where
  /-- Of two numbers the first is at most the second, or greater. -/
  le_or_gt {x y : α} : isNaN x = false → isNaN y = false → le x y ∨ lt y x
  isNaN_of_isFinite {x : α} : isFinite x → isNaN x = false
  isNaN_sub {x y : α} : isFinite x → isFinite y → isNaN (x - y) = false
  sub_le_sub {w x y z : α} : isFinite w → isFinite x → isFinite y → isFinite z →
    le w x → le y z → le (w - z) (x - y)

/-- Positions some of which may be missing: what is computed from a missing one is missing too. -/
class PartialOrdinate (α : Type) [Ordinate α] : Prop extends RoundedOrdinate α where
  isNaN_abs (x : α) : isNaN (abs x) = isNaN x
  isNaN_sub_of_isFinite {x y : α} : isFinite y → isNaN (x - y) = isNaN x
  isNaN_sub_of_or {x y : α} : isNaN x ∨ isNaN y → isNaN (x - y)
  isNaN_div_of_or {x y : α} : isNaN x ∨ isNaN y → isNaN (x / y)
  eq_of_or {x y : α} : isNaN x ∨ isNaN y → eq x y = false
  isFinite_of_sub {x y : α} : isFinite (x - y) → isFinite x ∧ isFinite y
  ceil?_of_isNaN {x : α} : isNaN x → ceil? x = .error .notANumber

namespace RoundedOrdinate

open OrderedOrdinate LinearOrdinate

variable {α : Type} [Ordinate α] [RoundedOrdinate α] {x y z : α}

theorem le_refl (number : isNaN x = false) : le x x := by
  rcases le_or_gt number number with same | less
  · exact same
  · rw [OrderedOrdinate.lt_irrefl] at less
    cases less

theorem le_of_not_lt (first : isNaN x = false) (second : isNaN y = false)
    (h : lt y x = false) : le x y := by
  rcases le_or_gt first second with le | lt
  · exact le
  · rw [h] at lt
    cases lt

end RoundedOrdinate

/-! ## Ranks -/

/-- Positions compare as their ranks do; what is no number has none. -/
structure Ranks {α κ : Type} [Ordinate α] [AddCommGroup κ] [LinearOrder κ]
    (rank? : α → Option κ) : Prop where
  lt_iff (x y : α) : lt x y = true ↔ ∃ a ∈ rank? x, ∃ b ∈ rank? y, a < b
  le_iff (x y : α) : le x y = true ↔ ∃ a ∈ rank? x, ∃ b ∈ rank? y, a ≤ b
  isNaN_iff (x : α) : isNaN x = true ↔ rank? x = none
  rank?_neg (x : α) : rank? (-x) = (rank? x).map (-·)
  isFinite_of_lt_of_lt {x y z : α} : lt x y → lt y z → isFinite y
  widest_eq (x : α) : widest x = x
  hasOpposite_eq (x : α) : hasOpposite x = true

namespace Ranks

variable {α κ : Type} [Ordinate α] [AddCommGroup κ] [LinearOrder κ] {rank? : α → Option κ}

theorem isNaN_eq_false_iff (h : Ranks rank?) (x : α) : isNaN x = false ↔ ∃ a, rank? x = some a := by
  rw [← Bool.not_eq_true, h.isNaN_iff, ← Ne, Option.ne_none_iff_exists']

theorem le_or_gt (h : Ranks rank?) {x y : α} (first : isNaN x = false) (second : isNaN y = false) :
    le x y ∨ lt y x := by
  obtain ⟨a, ha⟩ := (h.isNaN_eq_false_iff x).1 first
  obtain ⟨b, hb⟩ := (h.isNaN_eq_false_iff y).1 second
  rw [h.le_iff, h.lt_iff]
  rcases lt_or_ge b a with gt | le
  · exact .inr ⟨b, hb, a, ha, gt⟩
  · exact .inl ⟨a, ha, b, hb, le⟩

variable [IsOrderedAddMonoid κ]

/-- The laws of comparison are those of the ranks. -/
theorem linearOrdinate (h : Ranks rank?) : LinearOrdinate α where
  lt_irrefl x := by
    rw [Bool.eq_false_iff, Ne, h.lt_iff]
    rintro ⟨a, ha, b, hb, lt⟩
    cases Option.mem_unique ha hb
    exact lt_irrefl _ lt
  lt_trans {x y z} := by
    simp only [h.lt_iff]
    rintro ⟨a, ha, b, hb, ab⟩ ⟨b', hb', c, hc, bc⟩
    cases Option.mem_unique hb hb'
    exact ⟨a, ha, c, hc, ab.trans bc⟩
  lt_of_lt_of_le {x y z} := by
    simp only [h.lt_iff, h.le_iff]
    rintro ⟨a, ha, b, hb, ab⟩ ⟨b', hb', c, hc, bc⟩
    cases Option.mem_unique hb hb'
    exact ⟨a, ha, c, hc, ab.trans_le bc⟩
  lt_of_le_of_lt {x y z} := by
    simp only [h.lt_iff, h.le_iff]
    rintro ⟨a, ha, b, hb, ab⟩ ⟨b', hb', c, hc, bc⟩
    cases Option.mem_unique hb hb'
    exact ⟨a, ha, c, hc, ab.trans_lt bc⟩
  le_of_lt {x y} := by
    simp only [h.lt_iff, h.le_iff]
    rintro ⟨a, ha, b, hb, ab⟩
    exact ⟨a, ha, b, hb, ab.le⟩
  isNaN_of_lt {x y} := by
    rw [h.lt_iff, h.isNaN_eq_false_iff, h.isNaN_eq_false_iff]
    rintro ⟨a, ha, b, hb, -⟩
    exact ⟨⟨a, ha⟩, ⟨b, hb⟩⟩
  isFinite_of_lt_of_lt := h.isFinite_of_lt_of_lt
  lt_neg_neg x y := by
    rw [Bool.eq_iff_iff, h.lt_iff, h.lt_iff, h.rank?_neg, h.rank?_neg]
    simp only [Option.mem_def, Option.map_eq_some_iff]
    constructor
    · rintro ⟨_, ⟨a, ha, rfl⟩, _, ⟨b, hb, rfl⟩, lt⟩
      exact ⟨b, hb, a, ha, neg_lt_neg_iff.1 lt⟩
    · rintro ⟨b, hb, a, ha, lt⟩
      exact ⟨-a, ⟨a, ha, rfl⟩, -b, ⟨b, hb, rfl⟩, neg_lt_neg_iff.2 lt⟩
  isNaN_neg x := by
    rw [Bool.eq_iff_iff, h.isNaN_iff, h.isNaN_iff, h.rank?_neg, Option.map_eq_none_iff]
  widest_eq := h.widest_eq
  hasOpposite_eq := h.hasOpposite_eq
  le_trans {x y z} := by
    simp only [h.le_iff]
    rintro ⟨a, ha, b, hb, ab⟩ ⟨b', hb', c, hc, bc⟩
    cases Option.mem_unique hb hb'
    exact ⟨a, ha, c, hc, ab.trans bc⟩
  lt_of_le_of_not_le {x y} := by
    rw [← Bool.not_eq_true, h.le_iff, h.le_iff, h.lt_iff]
    rintro ⟨a, ha, b, hb, -⟩ back
    exact ⟨a, ha, b, hb, lt_of_not_ge fun ba => back ⟨b, hb, a, ha, ba⟩⟩
  isNaN_of_le {x y} := by
    rw [h.le_iff, h.isNaN_eq_false_iff, h.isNaN_eq_false_iff]
    rintro ⟨a, ha, b, hb, -⟩
    exact ⟨⟨a, ha⟩, ⟨b, hb⟩⟩
  le_neg_neg x y := by
    rw [Bool.eq_iff_iff, h.le_iff, h.le_iff, h.rank?_neg, h.rank?_neg]
    simp only [Option.mem_def, Option.map_eq_some_iff]
    constructor
    · rintro ⟨_, ⟨a, ha, rfl⟩, _, ⟨b, hb, rfl⟩, le⟩
      exact ⟨b, hb, a, ha, neg_le_neg_iff.1 le⟩
    · rintro ⟨b, hb, a, ha, le⟩
      exact ⟨-a, ⟨a, ha, rfl⟩, -b, ⟨b, hb, rfl⟩, neg_le_neg_iff.2 le⟩

end Ranks

/-! ## Fractions -/

/-- A fraction is its own rank. -/
theorem Fraction.ranks_some : Ranks (some : ℚ → Option ℚ) where
  lt_iff x y := by simp
  le_iff x y := by simp
  isNaN_iff x := by simp
  rank?_neg _ := rfl
  isFinite_of_lt_of_lt _ _ := rfl
  widest_eq _ := rfl
  hasOpposite_eq _ := rfl

/-- Any two fractions compare, and all of them are numbers. -/
instance : LinearOrdinate ℚ := Fraction.ranks_some.linearOrdinate

/-- Differences of fractions are exact. -/
instance : RoundedOrdinate ℚ where
  le_or_gt := Fraction.ranks_some.le_or_gt
  isNaN_of_isFinite _ := rfl
  isNaN_sub _ _ := rfl
  sub_le_sub {w x y z} _ _ _ _ := by
    simp only [Fraction.le_eq, decide_eq_true_eq]
    exact tsub_le_tsub

end Meteo
