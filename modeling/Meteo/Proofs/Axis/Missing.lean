/-
# Meteo.Proofs.Axis.Missing -- lookups among samples some of which are missing

A search for the nearest sample ought to pass over those that are missing.  It does not: the
distance to a missing sample is no number, and the first key that is no number counts as least
(`find_of_missing`).  Two samples count as evenly spaced even if one of them is missing, and
then the number of steps to a position is no number either (`find_pair_of_missing`).  That holds
of all positions that treat missing numbers as doubles do, so of doubles too.

`FindsPresent` says of samples and a position what one expects of a lookup.  Where finite numbers
are computed exactly it holds if and only if no sample is missing and, of two samples, the first
is not infinite (`findsPresent_iff`).
-/
import Mathlib
import Meteo.Proofs.Axis.Build
import Meteo.Proofs.Axis.Search
import Meteo.Proofs.Axis.Steps
import Meteo.Proofs.Number.Differences
import Meteo.Proofs.Number.Extended

namespace Meteo.Scale

set_option autoImplicit false

open Ordinate

section Any

variable {α : Type} [Ordinate α] {n : ℕ}

/-- The scale that samples without cells make. -/
def ofPoints (h : 0 < n) (values : Vector α n) : Scale α :=
  ⟨n, h, values[0], values.get (lastIndex h),
    if isEven values none then .regular else .points values⟩

theorem ofSamples_eq_ofPoints (h : 0 < n) (values : Vector α n) :
    ofSamples (.ofVector values) none none = .ok (ofPoints h values) := by
  rw [ofSamples_ofVector h, ofVector_points]
  rfl

/-- A position is found at a sample that is not missing, and among points that are not evenly
spaced no other such sample is nearer. -/
def FindsPresent (values : Vector α n) (x : α) : Prop :=
  ∃ (s : Scale α) (i : Fin n), ofSamples (.ofVector values) none none = .ok s ∧
    (s.find x).map Fin.val = .ok i.val ∧ isNaN (values.get i) = false ∧
      (s.spacing = .irregularPoint → ∀ j, isNaN (values.get j) = false →
        le (abs (values.get i - x)) (abs (values.get j - x)))

variable {h : 0 < n} {values : Vector α n} {x : α}

theorem layout_of_even (even : isEven values none = true) :
    (ofPoints h values).layout = .regular :=
  if_pos even

theorem layout_of_uneven (uneven : isEven values none = false) :
    (ofPoints h values).layout = .points values :=
  if_neg (ne_true_of_eq_false uneven)

theorem findsPresent_of_find {i : Fin n} (found : (ofPoints h values).find x = .ok i)
    (number : isNaN (values.get i) = false)
    (nearest : isEven values none = false → ∀ j, isNaN (values.get j) = false →
      le (abs (values.get i - x)) (abs (values.get j - x))) : FindsPresent values x := by
  refine ⟨ofPoints h values, i, ofSamples_eq_ofPoints h values, ?_, number, fun points => ?_⟩
  · rw [found]
    rfl
  · refine nearest (Bool.eq_false_iff.2 fun even => ?_)
    rw [spacing, layout_of_even even] at points
    cases points

/-- There is only one scale that the samples make, and it has one answer. -/
theorem FindsPresent.find_eq (present : FindsPresent values x) :
    ∃ i : Fin n, (ofPoints h values).find x = .ok i ∧ isNaN (values.get i) = false := by
  obtain ⟨s, i, made, found, number, -⟩ := present
  rw [ofSamples_eq_ofPoints h] at made
  cases made
  obtain ⟨k, answer, same⟩ := Outcome.map_eq_ok.1 found
  obtain rfl : k = i := Fin.ext same
  exact ⟨k, answer, number⟩

theorem find_ofPoints_of_uneven (finite : isFinite x = true) (several : n ≠ 1)
    (uneven : isEven values none = false) :
    (ofPoints h values).find x = .ok (findPoint h values x) :=
  find_points (s := ofPoints h values) finite several (layout_of_uneven uneven)

end Any

/-! ## Missing samples -/

section Partial

open PartialOrdinate

variable {α : Type} [Ordinate α] [PartialOrdinate α] {n : ℕ} {h : 0 < n} {values : Vector α n}
  {x : α} {i : Fin n}

/-- The distance to a sample is missing exactly where the sample is. -/
theorem isNaN_abs_sub (finite : isFinite x = true) (values : Vector α n) (j : Fin n) :
    isNaN (abs (values.get j - x)) = isNaN (values.get j) := by
  rw [isNaN_abs, isNaN_sub_of_isFinite finite]

/-- Among points the first missing one is found. -/
theorem findPoint_of_missing (finite : isFinite x = true) (missing : isNaN (values.get i) = true)
    (first : ∀ j, j < i → isNaN (values.get j) = false) : findPoint h values x = i := by
  refine least_of_isNaN h ?_ fun j before => ?_
  · exact (isNaN_abs_sub finite values i).trans missing
  · exact (isNaN_abs_sub finite values j).trans (first j before)

/-- Among points none of which is missing a nearest one is found. -/
theorem findPoint_nearest (finite : isFinite x = true)
    (numbers : ∀ j, isNaN (values.get j) = false) (j : Fin n) :
    le (abs (values.get (findPoint h values x) - x)) (abs (values.get j - x)) :=
  (least_spec h fun k => (isNaN_abs_sub finite values k).trans (numbers k)).1 j

theorem isEven_of_missing (several : 3 ≤ n) (missing : isNaN (values.get i) = true) :
    isEven values none = false := by
  refine Bool.eq_false_iff.2 fun even => ?_
  have number : isNaN (values.get i) = false :=
    RoundedOrdinate.isNaN_of_isFinite (Spacing.isFinite_of_isRegular several even i)
  rw [missing] at number
  cases number

/-- Of three samples or more the first missing one is found. -/
theorem find_of_missing (finite : isFinite x = true) (several : 3 ≤ n)
    (missing : isNaN (values.get i) = true) (first : ∀ j, j < i → isNaN (values.get j) = false) :
    (ofPoints h values).find x = .ok i :=
  (find_ofPoints_of_uneven finite (by omega) (isEven_of_missing several missing)).trans
    (congrArg Except.ok (findPoint_of_missing finite missing first))

omit [Ordinate α] [PartialOrdinate α] in
theorem toList_pair (values : Vector α 2) : values.toList = [values.get 0, values.get 1] := by
  obtain ⟨⟨xs⟩, size⟩ := values
  match xs, size with
  | [a, b], _ => rfl

/-- Between two samples one of which is missing there is no number of steps. -/
theorem find_pair_of_missing {values : Vector α 2} (finite : isFinite x = true)
    (missing : isNaN (values.get 0) = true ∨ isNaN (values.get 1) = true) :
    (ofPoints two_pos values).find x = .error (.steps .notANumber) := by
  have even : isEven values none = true := by
    rw [isEven, Option.getD_none, toList_pair, Spacing.isRegular_pair missing]
  have noStep : isNaN (ofPoints two_pos values).step = true :=
    isNaN_div_of_or (.inl (isNaN_sub_of_or missing.symm))
  have steps := ceil?_of_isNaN (isNaN_sub_of_or (y := half) (.inl
    (isNaN_div_of_or (x := x - (ofPoints two_pos values).start) (.inr noStep))))
  rw [find_regular finite (Nat.succ_ne_self 1) (layout_of_even even), findRegular,
    eq_of_or (.inl noStep), if_neg Bool.false_ne_true, steps]
  rfl

/-- Where a sample is missing, lookups go wrong at every position. -/
theorem not_findsPresent_of_missing (finite : isFinite x = true)
    (missing : isNaN (values.get i) = true) : ¬ FindsPresent values x := by
  intro present
  obtain ⟨k, found, number⟩ := present.find_eq (h := i.pos)
  rcases Nat.lt_trichotomy n 2 with one | two | more
  · obtain rfl : k = i := Fin.ext (by omega)
    rw [missing] at number
    cases number
  · subst two
    have either : isNaN (values.get 0) = true ∨ isNaN (values.get 1) = true := by
      match i, missing with
      | 0, missing => exact .inl missing
      | 1, missing => exact .inr missing
    rw [find_pair_of_missing finite either] at found
    cases found
  · obtain ⟨m, gone, least⟩ := wellFounded_lt.has_min {j | isNaN (values.get j) = true} ⟨i, missing⟩
    have first (j : Fin n) (before : j < m) : isNaN (values.get j) = false :=
      Bool.eq_false_iff.2 fun earlier => least j earlier before
    rw [find_of_missing finite more gone first] at found
    cases found
    exact Bool.noConfusion (gone.symm.trans number)

/-- Points that are not evenly spaced are looked up as expected, if none is missing. -/
theorem findsPresent_of_uneven (h : 0 < n) (finite : isFinite x = true)
    (numbers : ∀ j, isNaN (values.get j) = false) (several : n ≠ 1)
    (uneven : isEven values none = false) : FindsPresent values x :=
  findsPresent_of_find (find_ofPoints_of_uneven (h := h) finite several uneven) (numbers _)
    fun _ j _ => findPoint_nearest finite numbers j

end Partial

/-! ## Exact positions -/

section Exact

open Extended (finite infinite missing)

variable {s : Scale Extended}

/-- On an evenly spaced scale that starts at a fraction a fraction is found, whether or not the
last sample is infinite. -/
theorem find_of_finite_start (even : s.layout = .regular) {p : ℚ} (start : s.start = finite p)
    (stop : s.stop ≠ missing) (x : ℚ) : ∃ i, s.find (finite x) = .ok i := by
  by_cases single : s.size = 1
  · exact ⟨_, find_of_single rfl single ⟨0, s.size_pos⟩⟩
  have count : ((s.size - 1 : ℕ) : ℚ) ≠ 0 := by
    have := s.size_pos
    exact Nat.cast_ne_zero.2 (by omega)
  have steps : eq s.step zero = true ∨
      ∃ r, (finite x - s.start) / s.step - half = finite r := by
    rw [step, if_neg single, start, Extended.ofNat_eq, Extended.finite_sub_finite, Extended.half_eq]
    cases last : s.stop with
    | missing => exact absurd last stop
    | infinite a =>
        right
        rw [Extended.infinite_sub_finite, Extended.infinite_div_finite,
          Extended.finite_div_infinite, Extended.finite_sub_finite]
        exact ⟨_, rfl⟩
    | finite q =>
        rw [Extended.finite_sub_finite, Extended.finite_div_finite _ count]
        by_cases still : (q - p) / ((s.size - 1 : ℕ) : ℚ) = 0
        · exact .inl (decide_eq_true still)
        · right
          rw [Extended.finite_div_finite _ still, Extended.finite_sub_finite]
          exact ⟨_, rfl⟩
  rw [find_regular rfl single even, findRegular]
  rcases steps with still | ⟨r, steps⟩
  · rw [still, if_pos rfl]
    exact ⟨_, rfl⟩
  · split
    · exact ⟨_, rfl⟩
    · rw [steps]
      exact ⟨_, rfl⟩

/-- From an infinite start there is no number of steps to a fraction. -/
theorem find_of_infinite_start (even : s.layout = .regular) (several : s.size ≠ 1) {a : Bool}
    (start : s.start = infinite a) {q : ℚ} (stop : s.stop = finite q) (x : ℚ) :
    s.find (finite x) = .error (.steps .notANumber) := by
  have step : ∃ b, s.step = infinite b := by
    rw [step, if_neg several, start, stop, Extended.ofNat_eq, Extended.finite_sub_infinite,
      Extended.infinite_div_finite]
    exact ⟨_, rfl⟩
  obtain ⟨b, step⟩ := step
  rw [find_regular rfl several even, findRegular, step, start, Extended.finite_sub_infinite,
    Extended.infinite_div_infinite]
  rfl

theorem find_pair_of_infinite {values : Vector Extended 2} {a : Bool}
    (first : values.get 0 = infinite a) {q : ℚ} (second : values.get 1 = finite q) (x : ℚ) :
    (ofPoints two_pos values).find (finite x) = .error (.steps .notANumber) := by
  have even : isEven values none = true := by
    rw [isEven, Option.getD_none, toList_pair, first, second]
    rfl
  exact find_of_infinite_start (layout_of_even even) (Nat.succ_ne_self 1) first second x

variable {n : ℕ} {values : Vector Extended n}

/-- Of two samples the first has to be finite, and the second one must not be missing. -/
theorem find_pair_of_lost {values : Vector Extended 2}
    (present : ∃ i, isFinite (values.get i) = true)
    (lost : isFinite (values.get 0) = false ∨ isNaN (values.get 1) = true) (x : ℚ) :
    (ofPoints two_pos values).find (finite x) = .error (.steps .notANumber) := by
  by_cases missing : isNaN (values.get 0) = true ∨ isNaN (values.get 1) = true
  · exact find_pair_of_missing rfl missing
  · obtain ⟨first, second⟩ := not_or.1 missing
    have beyond : isFinite (values.get 0) = false := lost.resolve_right second
    -- the finite one can only be the second
    obtain ⟨q, last⟩ : ∃ q, values.get 1 = finite q := by
      obtain ⟨i, here⟩ := present
      match i, here with
      | 0, here => exact Bool.noConfusion (beyond.symm.trans here)
      | 1, here => exact Extended.isFinite_iff.1 here
    cases start : values.get 0 with
    | missing => exact absurd (Extended.isNaN_iff.2 start) first
    | infinite a => exact find_pair_of_infinite start last x
    | finite p =>
        rw [start] at beyond
        cases beyond

/-- A fraction is found as expected if no sample is missing and the first of two is not infinite. -/
theorem findsPresent_of_numbers (h : 0 < n) (numbers : ∀ i, isNaN (values.get i) = false)
    (start : n = 2 → isFinite (values.get ⟨0, h⟩) = true) (x : ℚ) :
    FindsPresent values (finite x) := by
  by_cases single : n = 1
  · have only (j k : Fin n) : j = k := Fin.ext (by omega)
    refine findsPresent_of_find (find_of_single (s := ofPoints h values) rfl single ⟨0, h⟩)
      (numbers _) fun _ j _ => ?_
    rw [only j ⟨0, h⟩]
    exact RoundedOrdinate.le_refl ((isNaN_abs_sub rfl values _).trans (numbers _))
  cases even : isEven values none with
  | false => exact findsPresent_of_uneven h rfl numbers single even
  | true =>
      have first : isFinite (values.get ⟨0, h⟩) = true := by
        by_cases two : n = 2
        · exact start two
        · exact Spacing.isFinite_of_isRegular (by omega) even _
      obtain ⟨p, first⟩ := Extended.isFinite_iff.1 first
      have last : values.get (lastIndex h) ≠ missing := fun gone =>
        Bool.noConfusion ((numbers _).symm.trans (Extended.isNaN_iff.2 gone))
      obtain ⟨i, found⟩ := find_of_finite_start (layout_of_even (h := h) even) first last x
      exact findsPresent_of_find found (numbers i) fun uneven =>
        Bool.noConfusion (even.symm.trans uneven)

/-- A fraction is looked up as expected exactly if no sample is missing and, of two samples, the
first is not infinite.  Otherwise the lookup fails if there are two samples, and with more of them
it finds the first missing one. -/
theorem findsPresent_iff (h : 0 < n) (values : Vector Extended n)
    (present : ∃ i, isFinite (values.get i) = true) (x : ℚ) :
    (FindsPresent values (finite x) ↔
      (∀ i, isNaN (values.get i) = false) ∧ (n = 2 → isFinite (values.get ⟨0, h⟩) = true)) ∧
    ∃ s, ofSamples (.ofVector values) none none = .ok s ∧
      (n = 2 → isFinite (values.get ⟨0, h⟩) = false ∨ isNaN (values.get (lastIndex h)) = true →
        s.find (finite x) = .error (.steps .notANumber)) ∧
      (3 ≤ n → ∀ i, isNaN (values.get i) = true → (∀ j, j < i → isNaN (values.get j) = false) →
        (s.find (finite x)).map Fin.val = .ok i.val) := by
  have pair (two : n = 2)
      (lost : isFinite (values.get ⟨0, h⟩) = false ∨ isNaN (values.get (lastIndex h)) = true) :
      (ofPoints h values).find (finite x) = .error (.steps .notANumber) := by
    subst two
    exact find_pair_of_lost present lost x
  refine ⟨⟨fun finds => ?_, fun ⟨numbers, start⟩ => ?_⟩, ofPoints h values,
    ofSamples_eq_ofPoints h values, pair, fun several i missing first => ?_⟩
  · refine ⟨fun i => Bool.eq_false_iff.2 fun gone => not_findsPresent_of_missing rfl gone finds,
      fun two => Bool.of_not_eq_false fun infinite => ?_⟩
    obtain ⟨i, found, -⟩ := finds.find_eq (h := h)
    rw [pair two (.inl infinite)] at found
    cases found
  · exact findsPresent_of_numbers h numbers start x
  · rw [find_of_missing rfl several missing first]
    rfl

/-- Four levels, the second one infinitely far off. -/
def unbounded : Vector Extended 4 := #v[.finite 0, .infinite false, .finite 5, .finite 6]

theorem findsPresent_iff_unbounded :
    (∃ i, isFinite (unbounded.get i) = true) ∧ FindsPresent unbounded (.finite (11 / 2)) :=
  ⟨⟨0, rfl⟩, (findsPresent_iff four_pos unbounded ⟨0, rfl⟩ (11 / 2)).1.2
    ⟨by decide, fun two => absurd two (by decide)⟩⟩

end Exact

/-! ## What one expects -/

/-- Wherever some sample is finite, every finite position is looked up as expected. -/
def AlwaysFindsPresent (α : Type) [Ordinate α] : Prop :=
  ∀ (n : ℕ) (values : Vector α n), (∃ i, isFinite (values.get i) = true) →
    ∀ x, isFinite x = true → FindsPresent values x

/-- A missing sample in front of two others is found instead of the last one. -/
theorem not_alwaysFindsPresent_of_missing {α : Type} [Ordinate α] [PartialOrdinate α] (m y z : α)
    (missing : isNaN m = true) (finite : isFinite z = true) : ¬ AlwaysFindsPresent α := by
  intro always
  have present : FindsPresent #v[m, y, z] z := always 3 #v[m, y, z] ⟨2, finite⟩ z finite
  have first : isNaN ((#v[m, y, z] : Vector α 3).get 0) = true := missing
  exact not_findsPresent_of_missing finite first present

/-- It is not so of doubles, nor where finite numbers are computed exactly. -/
theorem not_alwaysFindsPresent : ¬ AlwaysFindsPresent Float ∧ ¬ AlwaysFindsPresent Extended :=
  ⟨not_alwaysFindsPresent_of_missing (0.0 / 0.0) 1.0 2.0 (by decide +kernel) (by decide +kernel),
    not_alwaysFindsPresent_of_missing .missing (.finite 1) (.finite 2) rfl rfl⟩

end Meteo.Scale
