/-
# Meteo.Proofs.Axis.Monotone -- greater positions belong to later samples

When the samples of a scale follow one another upwards, a greater position never
belongs to an earlier sample, and when they follow one another downwards never to a
later one (`find_monotone`): over exact fractions, for all four layouts, through gaps,
ties, shared edges and beyond both ends.

Rounding and bisection are monotone by themselves (`clamp_mono`, `bisect_mono`).
Points are cells without an extent, so the nearest point and the cell that contains a
position are both the least `outside`, at the first index that has it
(`findPoint_eq_least`, `findCell_eq_least`).  Of two cells the lower one is as near as
the upper one up to the middle between them (`outside_le_outside_iff`); the middle
itself goes to the first of the two, whichever that is, which turns the inequality
around on falling cells and leaves it where it is otherwise.
-/
import Meteo.Proofs.Axis.Lookup

namespace Meteo

set_option autoImplicit false

/-! ## Bisection and rounding -/

theorem bisect_mem {goRight : Nat → Bool} {lo hi : Nat} (range : lo ≤ hi) :
    lo ≤ bisect goRight lo hi ∧ bisect goRight lo hi ≤ hi := by
  fun_induction bisect goRight lo hi with
  | case1 lo hi open_ mid right ih =>
      obtain ⟨low, high⟩ := ih (by omega)
      exact ⟨by omega, high⟩
  | case2 lo hi open_ mid left ih =>
      obtain ⟨low, high⟩ := ih (by omega)
      exact ⟨low, by omega⟩
  | case3 lo hi closed => omega

/-- A test that goes right more often ends no further left, whatever the two tests are: as long as
they agree the halves are the same, and where they part one stays below the middle. -/
theorem bisect_mono {f g : Nat → Bool} (more : ∀ i, f i → g i) (lo hi : Nat) :
    bisect f lo hi ≤ bisect g lo hi := by
  fun_induction bisect f lo hi with
  | case1 lo hi open_ mid right ih =>
      rw [bisect.eq_1 g lo hi, if_pos open_]
      change bisect f (mid + 1) hi ≤ if g mid then bisect g (mid + 1) hi else bisect g lo mid
      rw [if_pos (more mid right)]
      exact ih
  | case2 lo hi open_ mid left ih =>
      rw [bisect.eq_1 g lo hi, if_pos open_]
      change bisect f lo mid ≤ if g mid then bisect g (mid + 1) hi else bisect g lo mid
      split
      · have below := (@bisect_mem f lo mid (by omega)).2
        have above := (@bisect_mem g (mid + 1) hi (by omega)).1
        omega
      · exact ih
  | case3 lo hi closed =>
      rw [bisect, if_neg closed]

namespace Scale

open Ordinate OrderedOrdinate

theorem clamp_mono {n : Nat} (h : 0 < n) {k l : ℤ} (le : k ≤ l) : clamp h k ≤ clamp h l := by
  rw [Fin.le_def]
  simp only [clamp]
  omega

/-! ## Evenly spaced samples -/

section Regular

variable {s : Scale ℚ} {x y : ℚ}

theorem step_pos (up : s.start < s.stop) (several : s.size ≠ 1) : 0 < s.step := by
  have positive := s.size_pos
  have count : (0 : ℚ) < ((s.size - 1 : ℕ) : ℚ) := Nat.cast_pos.2 (by omega)
  rw [step, if_neg several, Fraction.ofNat_eq]
  exact div_pos (sub_pos.2 up) count

theorem step_neg (down : s.stop < s.start) (several : s.size ≠ 1) : s.step < 0 := by
  have positive := s.size_pos
  have count : (0 : ℚ) < ((s.size - 1 : ℕ) : ℚ) := Nat.cast_pos.2 (by omega)
  rw [step, if_neg several, Fraction.ofNat_eq]
  exact div_neg_of_neg_of_pos (sub_neg.2 down) count

/-- The index that a number of steps from the start is rounded to. -/
def nearestStep (s : Scale ℚ) (steps : ℚ) : Fin s.size := clamp s.size_pos ⌈steps - 1 / 2⌉

theorem nearestStep_mono {a b : ℚ} (le : a ≤ b) : s.nearestStep a ≤ s.nearestStep b :=
  clamp_mono s.size_pos (Int.ceil_mono (sub_le_sub_right le _))

/-- Where the ends are the same every position belongs to the first sample. -/
theorem find_eq_zero (even : s.layout = .regular) (several : s.size ≠ 1) (still : s.step = 0)
    (x : ℚ) : s.find x = .ok ⟨0, s.size_pos⟩ := by
  rw [find_regular rfl several even, findRegular, still]
  rfl

theorem find_eq_nearestStep (even : s.layout = .regular) (several : s.size ≠ 1)
    (moves : s.step ≠ 0) (x : ℚ) :
    s.find x = .ok (s.nearestStep ((x - s.start) / s.step)) := by
  rw [find_regular rfl several even, findRegular_eq moves]
  rfl

end Regular

/-! ## Edges -/

section Edges

variable {α : Type} [Ordinate α] [OrderedOrdinate α] {n : Nat} {x y : α}

/-- A greater position has reached every edge that a lesser one has reached. -/
theorem edgesUpTo_mono (values : Vector α n) (le : le x y) :
    edgesUpTo values x ≤ edgesUpTo values y := by
  refine bisect_mono (fun i reached => ?_) 0 n
  split at reached
  · next h =>
    rw [dif_pos h]
    simp only [widest_eq, Bool.and_eq_true, Bool.not_eq_true'] at reached ⊢
    refine ⟨?_, reached.2⟩
    cases passed : lt y values[i] with
    | false => rfl
    | true => rw [← reached.1, lt_of_le_of_lt le passed]
  · cases reached

theorem findEdge_mono (h : 0 < n) {values : Vector α (n + 1)}
    (ascending : isFalling values = false) (le : le x y) :
    findEdge h values x ≤ findEdge h values y := by
  have reached := edgesUpTo_mono values le
  simp only [findEdge, ascending, Bool.false_eq_true, if_false]
  exact clamp_mono h (by omega)

/-- Falling edges are searched for the opposite of a position. -/
theorem findEdge_anti (h : 0 < n) {values : Vector α (n + 1)}
    (descending : isFalling values = true) (le : le (-y) (-x)) :
    findEdge h values y ≤ findEdge h values x := by
  have reached := edgesUpTo_mono (values.map (- ·)) le
  simp only [findEdge, descending, if_true]
  exact clamp_mono h (by omega)

end Edges

/-! ## Cells and points -/

section Cells

variable {n : Nat} {b c : ℚ × ℚ} {x y : ℚ}

/-- How far a position lies outside a cell; nothing within it. -/
def outside (b : ℚ × ℚ) (x : ℚ) : ℚ := max 0 (max (lower b - x) (x - upper b))

theorem outside_nonneg (b : ℚ × ℚ) (x : ℚ) : 0 ≤ outside b x := le_max_left _ _

theorem below_le_outside (b : ℚ × ℚ) (x : ℚ) : lower b - x ≤ outside b x :=
  (le_max_left _ _).trans (le_max_right _ _)

theorem above_le_outside (b : ℚ × ℚ) (x : ℚ) : x - upper b ≤ outside b x :=
  (le_max_right _ _).trans (le_max_right _ _)

theorem lower_le_upper (b : ℚ × ℚ) : lower b ≤ upper b := by
  rw [lower_eq, upper_eq]
  exact min_le_max

theorem outside_eq_zero_iff : outside b x = 0 ↔ lower b ≤ x ∧ x ≤ upper b := by
  rw [outside, max_eq_left_iff, max_le_iff, sub_nonpos, sub_nonpos]

theorem gap_eq_outside (beyond : ¬ (lower b ≤ x ∧ x ≤ upper b)) : gap b x = outside b x := by
  have extent := lower_le_upper b
  simp only [gap, Fraction.lt_eq, decide_eq_true_eq]
  split
  · next under =>
    rw [outside, max_eq_left (by linarith : x - upper b ≤ lower b - x), max_eq_right (by linarith)]
  · next reached =>
    have passed : upper b < x := by
      by_contra within
      exact beyond ⟨not_lt.1 reached, not_lt.1 within⟩
    rw [outside, max_eq_right (by linarith : lower b - x ≤ x - upper b), max_eq_right (by linarith)]

/-- The first cell that contains a position is the first from which it has no distance. -/
theorem findCell_eq_least (h : 0 < n) (bounds : Vector (ℚ × ℚ) n) (x : ℚ) :
    findCell h bounds x = least h fun i => outside (bounds.get i) x := by
  have contains_iff (i : Fin n) :
      (le (lower bounds[i]) x && le x (upper bounds[i])) = true ↔
        lower (bounds.get i) ≤ x ∧ x ≤ upper (bounds.get i) := by
    simp only [Fraction.le_eq, Bool.and_eq_true, decide_eq_true_eq]
    rfl
  rw [findCell]
  split
  · next i found =>
    obtain ⟨contains, k, hk, rfl, earlier⟩ := List.find?_eq_some_iff_getElem.1 found
    rw [contains_iff, ← outside_eq_zero_iff] at contains
    refine ((least_eq_iff h _).2 ⟨fun j => ?_, fun j before => ?_⟩).symm
    · rw [contains]
      exact outside_nonneg _ _
    · have missed := earlier j (by simpa [Fin.lt_def] using before)
      rw [List.getElem_finRange, Bool.not_eq_true', ← Bool.not_eq_true, contains_iff,
        ← outside_eq_zero_iff] at missed
      rw [contains]
      exact (outside_nonneg _ _).lt_of_ne' missed
  · next none =>
    congr 1
    funext i
    have missed := List.find?_eq_none.1 none i (List.mem_finRange i)
    rw [contains_iff] at missed
    exact gap_eq_outside missed

/-- A point is a cell without an extent. -/
theorem outside_point (v x : ℚ) : outside (v, v) x = |v - x| := by
  rw [outside, lower_eq, upper_eq, min_self, max_self, ← neg_sub v x]
  exact max_eq_right (abs_nonneg (v - x))

theorem findPoint_eq_least (h : 0 < n) (values : Vector ℚ n) (x : ℚ) :
    findPoint h values x = least h fun i => outside (values.get i, values.get i) x := by
  rw [findPoint]
  congr 1
  funext i
  rw [Fraction.abs_eq, outside_point]
  rfl

/-- The first cell lies below the second one; they may touch. -/
structure Below (b c : ℚ × ℚ) : Prop where
  lowers : lower b < lower c
  uppers : upper b < upper c
  apart : upper b ≤ lower c

theorem Below.trans {b c d : ℚ × ℚ} (first : Below b c) (second : Below c d) : Below b d :=
  ⟨first.lowers.trans second.lowers, first.uppers.trans second.uppers,
    first.apart.trans ((lower_le_upper c).trans second.apart)⟩

theorem below_of_le (wide : lower b < upper b) (wide' : lower c < upper c)
    (apart : upper b ≤ lower c) : Below b c :=
  ⟨wide.trans_le apart, apart.trans_lt wide', apart⟩

theorem below_of_lt {v w : ℚ} (lt : v < w) : Below (v, v) (w, w) := by
  constructor <;> simp only [lower_eq, upper_eq, min_self, max_self]
  · exact lt
  · exact lt
  · exact lt.le

/-- Up to the middle between two cells a position is as near to the lower one. -/
theorem outside_le_outside_iff (below : Below b c) :
    outside b x ≤ outside c x ↔ 2 * x ≤ upper b + lower c := by
  obtain ⟨lowers, uppers, apart⟩ := below
  constructor
  · intro nearer
    by_contra past
    have closer : outside c x < x - upper b :=
      max_lt (by linarith) (max_lt (by linarith) (by linarith))
    exact absurd (closer.trans_le (above_le_outside b x)) nearer.not_gt
  · intro before
    refine max_le (outside_nonneg c x) (max_le ?_ ?_)
    · exact (by linarith : lower b - x ≤ lower c - x).trans (below_le_outside c x)
    · exact (by linarith : x - upper b ≤ lower c - x).trans (below_le_outside c x)

/-- From the middle between two cells on a position is as near to the upper one. -/
theorem outside_le_outside_iff' (below : Below b c) :
    outside c x ≤ outside b x ↔ upper b + lower c ≤ 2 * x := by
  obtain ⟨lowers, uppers, apart⟩ := below
  constructor
  · intro nearer
    by_contra before
    have closer : outside b x < lower c - x :=
      max_lt (by linarith) (max_lt (by linarith) (by linarith))
    exact absurd (closer.trans_le (below_le_outside c x)) nearer.not_gt
  · intro past
    refine max_le (outside_nonneg b x) (max_le ?_ ?_)
    · exact (by linarith : lower c - x ≤ x - upper b).trans (above_le_outside b x)
    · exact (by linarith : x - upper c ≤ x - upper b).trans (above_le_outside b x)

/-- Where no index is given up for an earlier one, the first least key does not move forward. -/
theorem least_le_least (h : 0 < n) {key key' : Fin n → ℚ}
    (keeps : ∀ i j, i < j → key' i ≤ key' j → key i ≤ key j) : least h key ≤ least h key' := by
  obtain ⟨-, first⟩ := (@least_eq_iff n key h _).1 rfl
  obtain ⟨least', -⟩ := (@least_eq_iff n key' h _).1 rfl
  by_contra behind
  rw [not_le] at behind
  exact absurd (keeps _ _ behind (least' _)) (first _ behind).not_ge

theorem least_outside_mono (h : 0 < n) {cells : Fin n → ℚ × ℚ}
    (rising : ∀ i j, i < j → Below (cells i) (cells j)) (le : x ≤ y) :
    (least h fun i => outside (cells i) x) ≤ least h fun i => outside (cells i) y := by
  refine least_le_least h fun i j before nearer => ?_
  rw [outside_le_outside_iff (rising i j before)] at nearer ⊢
  linarith

theorem least_outside_anti (h : 0 < n) {cells : Fin n → ℚ × ℚ}
    (falling : ∀ i j, i < j → Below (cells j) (cells i)) (le : x ≤ y) :
    (least h fun i => outside (cells i) y) ≤ least h fun i => outside (cells i) x := by
  refine least_le_least h fun i j before nearer => ?_
  rw [outside_le_outside_iff' (falling i j before)] at nearer ⊢
  linarith

theorem findPoint_mono (h : 0 < n) {values : Vector ℚ n} (rising : Rising values) (le : x ≤ y) :
    findPoint h values x ≤ findPoint h values y := by
  rw [findPoint_eq_least, findPoint_eq_least]
  refine least_outside_mono h (fun i j before => below_of_lt ?_) le
  simpa using rising_iff.1 rising i j before

theorem findPoint_anti (h : 0 < n) {values : Vector ℚ n} (falling : Falling values) (le : x ≤ y) :
    findPoint h values y ≤ findPoint h values x := by
  rw [findPoint_eq_least, findPoint_eq_least]
  refine least_outside_anti h (fun i j before => below_of_lt ?_) le
  simpa using falling_iff.1 falling i j before

/-- What holds of neighbours and is transitive holds of all that follow one another. -/
theorem rel_of_lt {r : Fin n → Fin n → Prop}
    (trans : ∀ {i j k : Fin n}, r i j → r j k → r i k)
    (next : ∀ i j : Fin n, i.val + 1 = j.val → r i j) {i j : Fin n} (before : i < j) : r i j := by
  obtain ⟨j, hj⟩ := j
  induction j with
  | zero => exact absurd before (Nat.not_lt_zero _)
  | succ k ih =>
      rcases Nat.lt_or_eq_of_le (Nat.le_of_lt_succ before) with earlier | same
      · exact trans (ih (by omega) earlier) (next ⟨k, by omega⟩ ⟨k + 1, hj⟩ rfl)
      · exact next i ⟨k + 1, hj⟩ (congrArg (· + 1) same)

theorem findCell_mono (h : 0 < n) {bounds : Vector (ℚ × ℚ) n}
    (next : ∀ i j : Fin n, i.val + 1 = j.val → Below (bounds.get i) (bounds.get j)) (le : x ≤ y) :
    findCell h bounds x ≤ findCell h bounds y := by
  rw [findCell_eq_least, findCell_eq_least]
  refine least_outside_mono h (fun i j before => ?_) le
  exact rel_of_lt (r := fun i j => Below (bounds.get i) (bounds.get j)) Below.trans next before

theorem findCell_anti (h : 0 < n) {bounds : Vector (ℚ × ℚ) n}
    (next : ∀ i j : Fin n, i.val + 1 = j.val → Below (bounds.get j) (bounds.get i)) (le : x ≤ y) :
    findCell h bounds y ≤ findCell h bounds x := by
  rw [findCell_eq_least, findCell_eq_least]
  refine least_outside_anti h (fun i j before => ?_) le
  exact rel_of_lt (r := fun i j => Below (bounds.get j) (bounds.get i))
    (fun first second => second.trans first) next before

end Cells

/-! ## All layouts -/

/-- The samples follow one another upwards: the end lies above the start, points or edges rise, or
cells with an extent end at the latest where the next one begins. -/
def Ascends (s : Scale ℚ) : Prop :=
  match s.layout with
  | .regular => s.start < s.stop
  | .points values => Rising values
  | .edges values => Rising values
  | .cells bounds =>
      (∀ i : Fin s.size, lower (bounds.get i) < upper (bounds.get i)) ∧
        ∀ i j : Fin s.size, i.val + 1 = j.val → upper (bounds.get i) ≤ lower (bounds.get j)

/-- The samples follow one another downwards. -/
def Descends (s : Scale ℚ) : Prop :=
  match s.layout with
  | .regular => s.stop < s.start
  | .points values => Falling values
  | .edges values => Falling values
  | .cells bounds =>
      (∀ i : Fin s.size, lower (bounds.get i) < upper (bounds.get i)) ∧
        ∀ i j : Fin s.size, i.val + 1 = j.val → upper (bounds.get j) ≤ lower (bounds.get i)

/-- The samples found for a lesser and a greater position are in the order of the scale. -/
theorem find_monotone (s : Scale ℚ) {x y : ℚ} (le : x ≤ y) :
    ∃ i j : Fin s.size, s.find x = .ok i ∧ s.find y = .ok j ∧
      (s.Ascends → i ≤ j) ∧ (s.Descends → j ≤ i) := by
  by_cases single : s.size = 1
  · exact ⟨⟨0, s.size_pos⟩, ⟨0, s.size_pos⟩, find_of_single rfl single _,
      find_of_single rfl single _, fun _ => le_rfl, fun _ => le_rfl⟩
  cases layout : s.layout with
  | regular =>
      simp only [Ascends, Descends, layout]
      by_cases still : s.step = 0
      · exact ⟨_, _, find_eq_zero layout single still x, find_eq_zero layout single still y,
          fun _ => le_rfl, fun _ => le_rfl⟩
      have ahead : x - s.start ≤ y - s.start := sub_le_sub_right le _
      refine ⟨_, _, find_eq_nearestStep layout single still x,
        find_eq_nearestStep layout single still y, fun up => ?_, fun down => ?_⟩
      · exact nearestStep_mono (div_le_div_of_nonneg_right ahead (step_pos up single).le)
      · exact nearestStep_mono (div_le_div_of_nonpos_of_le (step_neg down single).le ahead)
  | points values =>
      simp only [Ascends, Descends, layout]
      exact ⟨_, _, find_points rfl single layout, find_points rfl single layout,
        fun rising => findPoint_mono s.size_pos rising le,
        fun falling => findPoint_anti s.size_pos falling le⟩
  | edges values =>
      simp only [Ascends, Descends, layout]
      refine ⟨_, _, find_edges rfl single layout, find_edges rfl single layout,
        fun rising => ?_, fun falling => ?_⟩
      · have ascending := not_lt_of_lt (rising 0 s.size (by omega) s.size_pos)
        exact findEdge_mono s.size_pos ascending (by simpa using le)
      · have descending := falling 0 s.size (by omega) s.size_pos
        exact findEdge_anti s.size_pos descending (by simpa using le)
  | cells bounds =>
      simp only [Ascends, Descends, layout]
      refine ⟨_, _, find_cells rfl single layout, find_cells rfl single layout, ?_, ?_⟩
      · rintro ⟨wide, next⟩
        exact findCell_mono s.size_pos
          (fun i j adjacent => below_of_le (wide i) (wide j) (next i j adjacent)) le
      · rintro ⟨wide, next⟩
        exact findCell_anti s.size_pos
          (fun i j adjacent => below_of_le (wide j) (wide i) (next i j adjacent)) le

/-- Four cells downwards, with a gap in the middle; the bounds of the second one are given from the
upper to the lower one. -/
def gappedDown : Scale ℚ :=
  ⟨4, by decide, 9, 1 / 2, .cells #v[(8, 10), (8, 6), (1, 2), (0, 1)]⟩

theorem find_monotone_gappedDown :
    (4 : ℚ) ≤ 8 ∧ gappedDown.Descends ∧
      ∃ i j : Fin gappedDown.size, gappedDown.find 4 = .ok i ∧ gappedDown.find 8 = .ok j ∧
        j ≤ i := by
  have down : gappedDown.Descends := by
    change (∀ i : Fin 4, _) ∧ ∀ i j : Fin 4, _
    decide +kernel
  have le : (4 : ℚ) ≤ 8 := by decide +kernel
  obtain ⟨i, j, first, second, -, order⟩ := find_monotone gappedDown le
  exact ⟨le, down, i, j, first, second, order down⟩

end Scale

end Meteo
