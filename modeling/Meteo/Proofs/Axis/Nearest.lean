/-
# Meteo.Proofs.Axis.Nearest -- rounding finds the nearest of evenly spaced samples

Evenly spaced samples are not searched: the number of steps from the start to a
position is rounded.  Over exact fractions that finds what a search of the samples
one by one would find, the nearest one and of two equally near ones the first
(`find_eq_nearest`): upwards, downwards and where all samples are the same, halfway
between two samples and beyond both ends.

The distance between a sample and a position is the distance between its index and
the number of steps, in steps (`abs_coordValue_sub`), so the direction of the axis
plays no part, and what remains is that rounding a half down finds the nearest index
(`nearestStep_nearest`).
-/
import Meteo.Proofs.Axis.Monotone

namespace Meteo.Scale

set_option autoImplicit false

/-- The lesser of two numbers is as near as the greater one up to the middle between them. -/
theorem abs_sub_le_abs_sub_iff {a b p : ℚ} (lt : a < b) : |a - p| ≤ |b - p| ↔ 2 * p ≤ a + b := by
  rw [← outside_point, ← outside_point, outside_le_outside_iff (below_of_lt lt), lower_eq, upper_eq,
    min_self, max_self]

variable {s : Scale ℚ}

/-- The index that a number of steps is rounded to is nearest to it, and the first of two. -/
theorem nearestStep_nearest (steps : ℚ) (j : Fin s.size) :
    |((s.nearestStep steps).val : ℚ) - steps| ≤ |(j.val : ℚ) - steps| ∧
      (j < s.nearestStep steps →
        |((s.nearestStep steps).val : ℚ) - steps| < |(j.val : ℚ) - steps|) := by
  obtain ⟨behind, before⟩ :=
    (clamp_eq_iff s.size_pos ⌈steps - 1 / 2⌉ (s.nearestStep steps)).1 rfl
  generalize s.nearestStep steps = i at behind before ⊢
  have earlier (less : j < i) : |(i.val : ℚ) - steps| < |(j.val : ℚ) - steps| := by
    have reached := Int.le_ceil_iff.1 (behind.resolve_left (by omega))
    have index : (j.val : ℚ) + 1 ≤ i.val := by exact_mod_cast less
    rw [← not_le, abs_sub_le_abs_sub_iff (by linarith)]
    push_cast at reached
    linarith
  refine ⟨?_, earlier⟩
  rcases lt_trichotomy j i with less | same | greater
  · exact (earlier less).le
  · rw [same]
  · have short := Int.ceil_le.1 (before.resolve_left (by omega))
    have index : (i.val : ℚ) + 1 ≤ j.val := by exact_mod_cast greater
    rw [abs_sub_le_abs_sub_iff (by linarith)]
    push_cast at short
    linarith

/-- The distance between a sample and a position is that between its index and the number of
steps. -/
theorem abs_coordValue_sub (even : s.layout = .regular) (several : s.size ≠ 1) (moves : s.step ≠ 0)
    (j : Fin s.size) (x : ℚ) :
    |s.coordValue j - x| = |s.step| * |(j.val : ℚ) - (x - s.start) / s.step| := by
  have position : s.coordValue j = s.start + j * s.step := by
    simp only [coordValue, even]
    rw [evenly_eq several j.isLt, step, if_neg several, Fraction.ofNat_eq]
  rw [position, ← abs_mul]
  congr 1
  field_simp
  ring

/-- Where the ends are the same, so are all samples. -/
theorem coordValue_of_still (even : s.layout = .regular) (several : s.size ≠ 1) (still : s.step = 0)
    (j : Fin s.size) : s.coordValue j = s.start := by
  rw [step, if_neg several, Fraction.ofNat_eq] at still
  simp only [coordValue, even]
  rw [evenly_eq several j.isLt, still, mul_zero, add_zero]

theorem get_coordValues (j : Fin s.size) : s.coordValues.get j = s.coordValue j := by
  change s.coordValues[j.val] = _
  rw [coordValues, Vector.getElem_ofFn]

/-- The first of the samples that are nearest to a position is what a search of the points finds. -/
theorem findPoint_coordValues_iff (x : ℚ) (i : Fin s.size) :
    findPoint s.size_pos s.coordValues x = i ↔
      (∀ j, |s.coordValue i - x| ≤ |s.coordValue j - x|) ∧
        ∀ j, j < i → |s.coordValue i - x| < |s.coordValue j - x| := by
  have distance (j : Fin s.size) :
      Ordinate.abs (s.coordValues[j] - x) = |s.coordValue j - x| := by
    rw [Fraction.abs_eq]
    exact congrArg (|· - x|) (get_coordValues j)
  rw [findPoint, least_eq_iff]
  simp only [distance]

/-- Rounding the number of steps finds the first of the nearest samples. -/
theorem exists_nearest (even : s.layout = .regular) (x : ℚ) :
    ∃ i : Fin s.size, s.find x = .ok i ∧
      (∀ j, |s.coordValue i - x| ≤ |s.coordValue j - x|) ∧
      ∀ j, j < i → |s.coordValue i - x| < |s.coordValue j - x| := by
  by_cases single : s.size = 1
  · have only (j : Fin s.size) : j = ⟨0, s.size_pos⟩ := Fin.ext (by omega)
    refine ⟨⟨0, s.size_pos⟩, find_of_single rfl single _, fun j => ?_, fun j before => ?_⟩
    · rw [only j]
    · exact absurd before (Nat.not_lt_zero _)
  by_cases still : s.step = 0
  · refine ⟨⟨0, s.size_pos⟩, find_eq_zero even single still x, fun j => ?_, fun j before => ?_⟩
    · rw [coordValue_of_still even single still, coordValue_of_still even single still]
    · exact absurd before (Nat.not_lt_zero _)
  · have extent : 0 < |s.step| := abs_pos.2 still
    refine ⟨_, find_eq_nearestStep even single still x, fun j => ?_, fun j before => ?_⟩
    · rw [abs_coordValue_sub even single still, abs_coordValue_sub even single still]
      exact mul_le_mul_of_nonneg_left (nearestStep_nearest _ j).1 extent.le
    · rw [abs_coordValue_sub even single still, abs_coordValue_sub even single still]
      exact mul_lt_mul_of_pos_left ((nearestStep_nearest _ j).2 before) extent

/-- Rounding the number of steps finds the first of the nearest samples, as a search of all samples
does. -/
theorem find_eq_nearest (s : Scale ℚ) (even : s.layout = .regular) (x : ℚ) :
    ∃ i : Fin s.size, s.find x = .ok i ∧ findPoint s.size_pos s.coordValues x = i ∧
      (∀ j, |s.coordValues.get i - x| ≤ |s.coordValues.get j - x|) ∧
      ∀ j, j < i → |s.coordValues.get i - x| < |s.coordValues.get j - x| := by
  obtain ⟨i, found, nearest⟩ := exists_nearest even x
  refine ⟨i, found, (findPoint_coordValues_iff x i).2 nearest, ?_⟩
  simpa only [get_coordValues] using nearest

/-- Five pressures downwards, a quarter apart. -/
def quarters : Scale ℚ := ⟨5, by decide, 10, 9, .regular⟩

/-- Halfway between the second and the third of them. -/
theorem find_eq_nearest_quarters :
    quarters.layout = .regular ∧
      ∃ i : Fin quarters.size, quarters.find (77 / 8) = .ok i ∧
        findPoint quarters.size_pos quarters.coordValues (77 / 8) = i ∧
        (∀ j, |quarters.coordValues.get i - 77 / 8| ≤ |quarters.coordValues.get j - 77 / 8|) ∧
        ∀ j, j < i →
          |quarters.coordValues.get i - 77 / 8| < |quarters.coordValues.get j - 77 / 8| :=
  ⟨rfl, find_eq_nearest quarters rfl (77 / 8)⟩

end Meteo.Scale
