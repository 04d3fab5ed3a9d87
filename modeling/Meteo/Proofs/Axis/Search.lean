/-
# Meteo.Proofs.Axis.Search -- what the searches along an axis find

One specification for each search of `Meteo.Axis.Lookup`, so that no later proof
opens a search again:

* `bisect_eq`: bisection finds the place where its test turns from true to false;
* `least_spec`, `least_eq_iff`: the least key is found at the first index that has it, or else
  the first key that is no number (`least_of_isNaN`);
* `clamp_eq_iff`: which integers are brought to an index;
* `findEdge_of_rising`, `findEdge_of_falling`: among edges in order, the cell whose
  first edge has been reached and whose second one has not;
* `findCell_eq`: the first cell that contains a position.

The lemmas at the end say which of the searches a scale is looked up by.

Edges and cells are compared in any `OrderedOrdinate`, keys that are numbers in any
`RoundedOrdinate`.
-/
import Mathlib.Data.List.FinRange
import Meteo.Axis.Lookup
import Meteo.Proofs.Number.Order

namespace Meteo

set_option autoImplicit false

/-! ## Bisection -/

/-- Below `k` the test sends the search to the right, from `k` on it does not. -/
theorem bisect_eq {goRight : Nat → Bool} {lo hi k : Nat} (from_lo : lo ≤ k) (to_hi : k ≤ hi)
    (below : ∀ i, lo ≤ i → i < k → goRight i = true)
    (above : ∀ i, k ≤ i → i < hi → goRight i = false) : bisect goRight lo hi = k := by
  fun_induction bisect goRight lo hi with
  | case1 lo hi open_ mid right ih =>
      have reached : mid < k := by
        by_contra beyond
        have := above mid (by omega) (by omega)
        rw [right] at this
        cases this
      exact ih (by omega) to_hi (fun i hi => below i (by omega)) above
  | case2 lo hi open_ mid left ih =>
      have beyond : k ≤ mid := by
        by_contra reached
        exact left (below mid (by omega) (by omega))
      exact ih from_lo beyond below (fun i hk hm => above i hk (by omega))
  | case3 lo hi closed => omega

namespace Scale

open Ordinate

/-! ## Least keys -/

section Least

variable {n : Nat}

section Missing

variable {α : Type} [Ordinate α] {key : Fin n → α}

theorem leastUpTo_le (key : Fin n → α) (k : Nat) (h : k < n) : (leastUpTo key k h).val ≤ k := by
  induction k with
  | zero => exact le_rfl
  | succ k ih =>
      have upTo := ih (by omega)
      rw [leastUpTo]
      split
      · omega
      · split
        · exact le_rfl
        · omega

/-- The first key that is no number is found, and kept. -/
theorem leastUpTo_of_isNaN {i : Fin n} (missing : isNaN (key i) = true)
    (numbers : ∀ j, j < i → isNaN (key j) = false) {k : Nat} (h : k < n) (upTo : i.val ≤ k) :
    leastUpTo key k h = i := by
  induction k with
  | zero => exact Fin.ext (Nat.le_zero.1 upTo).symm
  | succ k ih =>
      rw [leastUpTo]
      rcases Nat.lt_or_eq_of_le upTo with earlier | same
      · rw [ih (by omega) (Nat.le_of_lt_succ earlier), if_pos missing]
      · have last : i = ⟨k + 1, h⟩ := Fin.ext same
        have before : leastUpTo key k (by omega) < i := by
          rw [Fin.lt_def, same]
          exact Nat.lt_succ_of_le (leastUpTo_le key k _)
        rw [numbers _ before, if_neg Bool.false_ne_true, ← last, missing, Bool.true_or, if_pos rfl]

theorem least_of_isNaN (h : 0 < n) {i : Fin n} (missing : isNaN (key i) = true)
    (numbers : ∀ j, j < i → isNaN (key j) = false) : least h key = i :=
  leastUpTo_of_isNaN missing numbers _ (Nat.le_sub_one_of_lt i.isLt)

end Missing

section Numbers

open RoundedOrdinate OrderedOrdinate

variable {α : Type} [Ordinate α] [RoundedOrdinate α] {key : Fin n → α}

/-- The best index so far has a least key, and every earlier index a greater one. -/
theorem leastUpTo_spec (numbers : ∀ i, isNaN (key i) = false) (k : Nat) (h : k < n) :
    (∀ j : Fin n, j.val ≤ k → le (key (leastUpTo key k h)) (key j)) ∧
      ∀ j : Fin n, j < leastUpTo key k h → lt (key (leastUpTo key k h)) (key j) := by
  induction k with
  | zero =>
      refine ⟨fun j hj => ?_, fun j hj => absurd hj (Nat.not_lt_zero _)⟩
      have : j = ⟨0, h⟩ := Fin.ext (Nat.le_zero.1 hj)
      rw [this, leastUpTo]
      exact RoundedOrdinate.le_refl (numbers _)
  | succ k ih =>
      obtain ⟨least, first⟩ := ih (by omega)
      rw [leastUpTo]
      simp only [numbers, Bool.false_eq_true, if_false, Bool.false_or]
      split
      · next better =>
        refine ⟨fun j hj => ?_, fun j hj => ?_⟩
        · rcases Nat.lt_or_eq_of_le hj with earlier | same
          · exact le_of_lt (lt_of_lt_of_le better (least j (Nat.le_of_lt_succ earlier)))
          · rw [show j = ⟨k + 1, h⟩ from Fin.ext same]
            exact RoundedOrdinate.le_refl (numbers _)
        · exact lt_of_lt_of_le better (least j (Nat.le_of_lt_succ hj))
      · next worse =>
        refine ⟨fun j hj => ?_, first⟩
        rcases Nat.lt_or_eq_of_le hj with earlier | same
        · exact least j (Nat.le_of_lt_succ earlier)
        · rw [show j = ⟨k + 1, h⟩ from Fin.ext same]
          exact le_of_not_lt (numbers _) (numbers _) (Bool.eq_false_iff.2 worse)

/-- Of all indices with the least key the first one is found. -/
theorem least_spec (h : 0 < n) (numbers : ∀ i, isNaN (key i) = false) :
    (∀ j, le (key (least h key)) (key j)) ∧
      ∀ j, j < least h key → lt (key (least h key)) (key j) := by
  obtain ⟨least, first⟩ := leastUpTo_spec numbers (n - 1) (by omega)
  exact ⟨fun j => least j (by omega), first⟩

/-- An index is found if no key is less and every earlier one is greater. -/
theorem least_eq_of_first (h : 0 < n) (numbers : ∀ i, isNaN (key i) = false) {i : Fin n}
    (least' : ∀ j, le (key i) (key j)) (first' : ∀ j, j < i → lt (key i) (key j)) :
    least h key = i := by
  obtain ⟨least, first⟩ := least_spec h numbers
  rcases lt_trichotomy (Scale.least h key) i with before | same | behind
  · have := first' _ before
    rw [not_lt_of_le (least i)] at this
    cases this
  · exact same
  · have := first i behind
    rw [not_lt_of_le (least' _)] at this
    cases this

end Numbers

/-- Of all indices with the least key the first one is found. -/
theorem least_eq_iff {key : Fin n → ℚ} (h : 0 < n) (i : Fin n) :
    least h key = i ↔ (∀ j, key i ≤ key j) ∧ ∀ j, j < i → key i < key j := by
  have numbers (j : Fin n) : isNaN (key j) = false := rfl
  constructor
  · rintro rfl
    simpa using least_spec h numbers
  · rintro ⟨least', first'⟩
    exact least_eq_of_first h numbers (by simpa using least') (by simpa using first')

end Least

/-- An integer is brought to the index it is, or to the end of the indices beyond which it lies. -/
theorem clamp_eq_iff {n : Nat} (h : 0 < n) (k : ℤ) (i : Fin n) :
    clamp h k = i ↔ (i.val = 0 ∨ (i.val : ℤ) ≤ k) ∧ (i.val + 1 = n ∨ k ≤ i.val) := by
  have bound := i.isLt
  rw [Fin.ext_iff]
  simp only [clamp]
  omega

/-! ## Edges -/

section Edges

variable {α : Type} [Ordinate α] {n : Nat}

/-- Each position is greater than all before it. -/
def Rising (values : Vector α n) : Prop :=
  ∀ (i j : Nat) (hj : j < n) (h : i < j), lt values[i] values[j]

/-- Each position is less than all before it. -/
def Falling (values : Vector α n) : Prop :=
  ∀ (i j : Nat) (hj : j < n) (h : i < j), lt values[j] values[i]

theorem rising_iff {values : Vector α n} :
    Rising values ↔ ∀ i j : Fin n, i < j → lt (values.get i) (values.get j) :=
  ⟨fun rising i j h => rising i j j.isLt h,
    fun rising i j hj h => rising ⟨i, by omega⟩ ⟨j, hj⟩ h⟩

theorem falling_iff {values : Vector α n} :
    Falling values ↔ ∀ i j : Fin n, i < j → lt (values.get j) (values.get i) :=
  ⟨fun falling i j h => falling i j j.isLt h,
    fun falling i j hj h => falling ⟨i, by omega⟩ ⟨j, hj⟩ h⟩

instance (values : Vector α n) : Decidable (Rising values) :=
  decidable_of_iff _ rising_iff.symm

instance (values : Vector α n) : Decidable (Falling values) :=
  decidable_of_iff _ falling_iff.symm

variable [OrderedOrdinate α]

open OrderedOrdinate

theorem Falling.rising_neg {values : Vector α n} (falling : Falling values) :
    Rising (values.map (- ·)) := by
  intro i j hj h
  rw [Vector.getElem_map, Vector.getElem_map, lt_neg_neg]
  exact falling i j hj h

theorem Rising.isFalling_eq {values : Vector α (n + 1)} (rising : Rising values) (h : 0 < n) :
    isFalling values = false :=
  not_lt_of_lt (rising 0 n (by omega) h)

omit [OrderedOrdinate α] in
theorem Falling.isFalling_eq {values : Vector α (n + 1)} (falling : Falling values) (h : 0 < n) :
    isFalling values = true :=
  falling 0 n (by omega) h

/-- The first `k` edges have been reached, and no others. -/
theorem edgesUpTo_of_numbers {values : Vector α n} {x : α} {k : Nat} (upTo : k ≤ n)
    (numbers : ∀ (i : Nat) (h : i < n), isNaN values[i] = false)
    (reached : ∀ (i : Nat) (h : i < n), i < k → lt x values[i] = false)
    (beyond : ∀ (i : Nat) (h : i < n), k ≤ i → lt x values[i] = true) :
    edgesUpTo values x = k := by
  refine bisect_eq (Nat.zero_le k) upTo (fun i _ hi => ?_) (fun i hi h => ?_)
  · have h : i < n := by omega
    rw [dif_pos h, widest_eq, reached i h hi, numbers i h]
    rfl
  · rw [dif_pos h, widest_eq, beyond i h hi]
    rfl

/-- At least two rising edges are numbers. -/
theorem edgesUpTo_eq {values : Vector α n} {x : α} {k : Nat} (rising : Rising values)
    (several : 2 ≤ n) (upTo : k ≤ n)
    (reached : ∀ (i : Nat) (h : i < n), i < k → lt x values[i] = false)
    (beyond : ∀ (i : Nat) (h : i < n), k ≤ i → lt x values[i] = true) :
    edgesUpTo values x = k := by
  refine edgesUpTo_of_numbers upTo (fun i h => ?_) reached beyond
  by_cases first : i = 0
  · subst first
    exact (isNaN_of_lt (rising 0 1 (by omega) (by omega))).1
  · exact (isNaN_of_lt (rising 0 i h (by omega))).2

/-- A position behind the start of a cell and before its end, among rising edges. -/
theorem findEdge_of_rising (h : 0 < n) {values : Vector α (n + 1)} {x : α}
    (rising : Rising values) (i : Fin n) (start : lt x values[i.val] = false)
    (stop : lt x values[i.val + 1] = true) : findEdge h values x = i := by
  have ascending := rising.isFalling_eq h
  have count : edgesUpTo values x = i.val + 1 := by
    refine edgesUpTo_eq rising (by omega) (by omega) (fun j hj before => ?_) fun j hj after => ?_
    · rcases Nat.lt_or_eq_of_le (Nat.le_of_lt_succ before) with earlier | same
      · cases reached : lt x values[j] with
        | false => rfl
        | true => rw [← start, lt_trans reached (rising j i.val (by omega) earlier)]
      · simpa only [same] using start
    · rcases Nat.lt_or_eq_of_le after with later | same
      · exact lt_trans stop (rising (i.val + 1) j hj later)
      · simpa only [← same] using stop
  rw [findEdge, ascending, if_neg (by decide), count, clamp_eq_iff]
  omega

/-- A position behind the start of a cell and before its end, among falling edges. -/
theorem findEdge_of_falling (h : 0 < n) {values : Vector α (n + 1)} {x : α}
    (falling : Falling values) (i : Fin n) (start : lt values[i.val] x = false)
    (stop : lt values[i.val + 1] x = true) : findEdge h values x = i := by
  have descending := falling.isFalling_eq h
  have rising := falling.rising_neg
  have ascending := rising.isFalling_eq h
  have same := findEdge_of_rising (x := -x) h rising i
    (by rw [Vector.getElem_map, lt_neg_neg]; exact start)
    (by rw [Vector.getElem_map, lt_neg_neg]; exact stop)
  rw [findEdge, ascending, if_neg (by decide)] at same
  rw [findEdge, if_pos descending]
  exact same

end Edges

/-! ## Cells -/

/-- Strictly between the two bounds of a cell. -/
def Within {α : Type} [Ordinate α] (b : α × α) (x : α) : Prop :=
  lt (lower b) x ∧ lt x (upper b)

instance {α : Type} [Ordinate α] (b : α × α) (x : α) : Decidable (Within b x) :=
  inferInstanceAs (Decidable (_ ∧ _))

/-- The first of the cells that contain a position is found. -/
theorem findCell_eq {α : Type} [Ordinate α] {n : Nat} (h : 0 < n) {bounds : Vector (α × α) n}
    {x : α} (i : Fin n) (inside : le (lower (bounds.get i)) x && le x (upper (bounds.get i)))
    (outside : ∀ j, j < i →
      (le (lower (bounds.get j)) x && le x (upper (bounds.get j))) = false) :
    findCell h bounds x = i := by
  have found : ((List.finRange n).find? fun j =>
      le (lower bounds[j]) x && le x (upper bounds[j])) = some i := by
    rw [List.find?_eq_some_iff_getElem]
    refine ⟨inside, i.val, by simp, by simp, fun j hj => ?_⟩
    rw [List.getElem_finRange, Bool.not_eq_true']
    exact outside _ hj
  rw [findCell, found]

/-! ## Looking up by the layout -/

section Find

variable {α : Type} [Ordinate α] {s : Scale α} {x : α}

/-- On a scale of a single sample every position belongs to it. -/
theorem find_of_single (finite : isFinite x) (single : s.size = 1) (i : Fin s.size) :
    s.find x = .ok i := by
  have only : i = ⟨0, s.size_pos⟩ := Fin.ext (by omega)
  rw [find, finite, if_neg (by decide), if_pos single, only]

theorem find_regular (finite : isFinite x) (several : s.size ≠ 1) (layout : s.layout = .regular) :
    s.find x = (s.findRegular x).mapError .steps := by
  rw [find, finite, if_neg (by decide), if_neg several, layout]

theorem find_points (finite : isFinite x) (several : s.size ≠ 1) {values : Vector α s.size}
    (layout : s.layout = .points values) : s.find x = .ok (findPoint s.size_pos values x) := by
  rw [find, finite, if_neg (by decide), if_neg several, layout]

theorem find_edges [OrderedOrdinate α] (finite : isFinite x) (several : s.size ≠ 1)
    {values : Vector α (s.size + 1)} (layout : s.layout = .edges values) :
    s.find x = .ok (findEdge s.size_pos values x) := by
  rw [find, finite, if_neg (by decide), if_neg several, layout]
  simp only [OrderedOrdinate.hasOpposite_eq, Bool.not_true, Bool.and_false, Bool.false_eq_true,
    if_false]

theorem find_cells (finite : isFinite x) (several : s.size ≠ 1) {bounds : Vector (α × α) s.size}
    (layout : s.layout = .cells bounds) : s.find x = .ok (findCell s.size_pos bounds x) := by
  rw [find, finite, if_neg (by decide), if_neg several, layout]

end Find

end Scale

end Meteo
