/-
# Meteo.Proofs.Axis.Lookup -- every sample is found at its own position

`coordValues` says where the samples of a scale lie and `find` which sample a
position belongs to; each layout has a formula for the one and a search for the
other.  Over exact fractions the search undoes the formula, whether the samples
rise, fall or are in no order, unless two of them cannot be told apart
(`NonDegenerate`): each layout has a lemma of its own, `steps_coordValue`,
`findPoint_self`, `findEdge_middle` and `findCell_mean`.

For evenly spaced samples the positions that belong to one of them are described
completely (`find_regular_iff`): those nearer to it than to its neighbours, the
middle below it excluded and the one above it included, and at both ends everything
beyond.
-/
import Mathlib.Tactic.FieldSimp
import Mathlib.Tactic.Linarith
import Mathlib.Tactic.Ring
import Meteo.Proofs.Axis.Search

namespace Meteo.Scale

set_option autoImplicit false

/-! ## Evenly spaced samples -/

section Regular

variable {s : Scale ℚ}

theorem step_ne_zero (apart : s.start ≠ s.stop) (several : s.size ≠ 1) : s.step ≠ 0 := by
  have positive := s.size_pos
  have count : ((s.size - 1 : ℕ) : ℚ) ≠ 0 := Nat.cast_ne_zero.2 (by omega)
  rw [step, if_neg several, Fraction.ofNat_eq]
  exact div_ne_zero (sub_ne_zero.2 apart.symm) count

/-- Evenly spaced positions, without the detours that protect doubles from rounding. -/
theorem evenly_eq {start stop : ℚ} {n i : ℕ} (several : n ≠ 1) (h : i < n) :
    evenly start stop n i = start + i * ((stop - start) / ((n - 1 : ℕ) : ℚ)) := by
  have count : ((n - 1 : ℕ) : ℚ) ≠ 0 := Nat.cast_ne_zero.2 (by omega)
  simp only [evenly, if_neg several, Fraction.ofNat_eq, Fraction.eq_eq, Fraction.zero_eq,
    decide_eq_true_eq]
  split
  · next last =>
    rw [show n - 1 = i by omega] at count ⊢
    field_simp
    ring
  · split
    · next still =>
      rcases div_eq_zero_iff.1 still with none | none
      · rw [none]
        ring
      · exact absurd none count
    · ring

/-- The number of steps that lead to a sample. -/
theorem steps_coordValue (apart : s.start ≠ s.stop) (several : s.size ≠ 1) (i : Fin s.size) :
    (evenly s.start s.stop s.size i - s.start) / s.step = i := by
  have moves := step_ne_zero apart several
  rw [evenly_eq several i.isLt]
  rw [step, if_neg several, Fraction.ofNat_eq] at moves ⊢
  rw [add_sub_cancel_left]
  exact mul_div_cancel_right₀ _ moves

/-- The number of steps that lead to a position is rounded. -/
theorem findRegular_eq (moves : s.step ≠ 0) (x : ℚ) :
    s.findRegular x = .ok (clamp s.size_pos ⌈(x - s.start) / s.step - 1 / 2⌉) := by
  simp only [findRegular, Fraction.eq_eq, Fraction.zero_eq, decide_eq_true_eq, if_neg moves,
    Fraction.ceil?_eq, Fraction.half_eq, Except.map]

/-- A position belongs to the sample to which the least number of steps is left. -/
theorem findRegular_eq_iff (moves : s.step ≠ 0) (x : ℚ) (i : Fin s.size) :
    s.findRegular x = .ok i ↔
      (i.val = 0 ∨ (i : ℚ) - 1 / 2 < (x - s.start) / s.step) ∧
        (i.val + 1 = s.size ∨ (x - s.start) / s.step ≤ i + 1 / 2) := by
  have behind : ((i.val : ℤ) ≤ ⌈(x - s.start) / s.step - 1 / 2⌉) ↔
      (i : ℚ) - 1 / 2 < (x - s.start) / s.step := by
    rw [Int.le_ceil_iff, Int.cast_natCast]
    constructor <;> intro h <;> linarith
  have before : (⌈(x - s.start) / s.step - 1 / 2⌉ ≤ (i.val : ℤ)) ↔
      (x - s.start) / s.step ≤ i + 1 / 2 := by
    rw [Int.ceil_le, Int.cast_natCast]
    constructor <;> intro h <;> linarith
  rw [findRegular_eq moves, Except.ok.injEq, clamp_eq_iff, behind, before]

/-- The positions that belong to a sample among evenly spaced ones. -/
theorem find_regular_iff (even : s.layout = .regular) (apart : s.start ≠ s.stop)
    (several : s.size ≠ 1) (x : ℚ) (i : Fin s.size) :
    s.find x = .ok i ↔
      (i.val = 0 ∨ (i : ℚ) - 1 / 2 < (x - s.start) / s.step) ∧
        (i.val + 1 = s.size ∨ (x - s.start) / s.step ≤ i + 1 / 2) := by
  rw [← findRegular_eq_iff (step_ne_zero apart several), find_regular rfl several even]
  cases s.findRegular x <;> simp [Except.mapError]

end Regular

/-! ## Points, edges and cells -/

section Stored

variable {n : Nat}

/-- A point is nearest to itself, and no other point is as near. -/
theorem findPoint_self (h : 0 < n) {values : Vector ℚ n}
    (distinct : ∀ i j : Fin n, values.get i = values.get j → i = j) (i : Fin n) :
    findPoint h values (values.get i) = i := by
  have near (j : Fin n) : |values.get i - values.get i| ≤ |values.get j - values.get i| := by
    rw [sub_self, abs_zero]
    exact abs_nonneg _
  rw [findPoint, least_eq_iff]
  simp only [Fraction.abs_eq]
  refine ⟨near, fun j before => (near j).lt_of_ne fun same => ?_⟩
  rw [sub_self, abs_zero, eq_comm, abs_eq_zero, sub_eq_zero] at same
  exact absurd (distinct j i same) before.ne

theorem middle_eq (x y : ℚ) : middle x y = (x + y) / 2 := rfl

theorem mean_eq (b : ℚ × ℚ) : mean b = (b.1 + b.2) / 2 := by
  rw [mean, Fraction.zero_eq, zero_add]
  rfl

/-- Halfway between two edges in order lies the cell between them. -/
theorem findEdge_middle (h : 0 < n) {values : Vector ℚ (n + 1)}
    (ordered : Rising values ∨ Falling values) (i : Fin n) :
    findEdge h values (middle (values.get i.castSucc) (values.get i.succ)) = i := by
  change findEdge h values (middle values[i.val] values[i.val + 1]) = i
  have last : i.val + 1 < n + 1 := by omega
  rcases ordered with rising | falling
  · have up := rising i.val (i.val + 1) last (by omega)
    rw [Fraction.lt_eq, decide_eq_true_eq] at up
    apply findEdge_of_rising h rising
    · rw [Fraction.lt_eq, decide_eq_false_iff_not, middle_eq]
      linarith
    · rw [Fraction.lt_eq, decide_eq_true_eq, middle_eq]
      linarith
  · have down := falling i.val (i.val + 1) last (by omega)
    rw [Fraction.lt_eq, decide_eq_true_eq] at down
    apply findEdge_of_falling h falling
    · rw [Fraction.lt_eq, decide_eq_false_iff_not, middle_eq]
      linarith
    · rw [Fraction.lt_eq, decide_eq_true_eq, middle_eq]
      linarith

theorem lower_eq (b : ℚ × ℚ) : lower b = min b.1 b.2 := by
  simp only [lower, Fraction.isNaN_eq, Fraction.le_eq, Bool.false_or, decide_eq_true_eq]
  rfl

theorem upper_eq (b : ℚ × ℚ) : upper b = max b.1 b.2 := by
  simp only [upper, Fraction.isNaN_eq, Fraction.le_eq, Bool.false_or, decide_eq_true_eq]
  rw [max_comm]
  rfl

theorem within_iff (b : ℚ × ℚ) (x : ℚ) : Within b x ↔ lower b < x ∧ x < upper b := by
  rw [Within, Fraction.lt_eq, Fraction.lt_eq, decide_eq_true_eq, decide_eq_true_eq]

theorem within_mean {b : ℚ × ℚ} (wide : b.1 ≠ b.2) : Within b (mean b) := by
  rw [within_iff, mean_eq, lower_eq, upper_eq]
  rcases lt_or_gt_of_ne wide with up | down
  · rw [min_eq_left up.le, max_eq_right up.le]
    constructor <;> linarith
  · rw [min_eq_right down.le, max_eq_left down.le]
    constructor <;> linarith

/-- A position within one cell and on the edge of a second one has neighbours within both. -/
theorem within_both {b c : ℚ × ℚ} {x : ℚ} (wide : c.1 ≠ c.2) (within : Within b x)
    (lowest : lower c ≤ x) (highest : x ≤ upper c) : ∃ y, Within b y ∧ Within c y := by
  obtain ⟨above, below⟩ := (within_iff b x).1 within
  have extent : lower c < upper c := by
    rw [lower_eq, upper_eq]
    exact min_lt_max.2 wide
  have room : max (lower b) (lower c) < min (upper b) (upper c) :=
    max_lt (lt_min (above.trans below) (above.trans_le highest))
      (lt_min (lowest.trans_lt below) extent)
  obtain ⟨y, low, high⟩ := exists_between room
  rw [max_lt_iff] at low
  rw [lt_min_iff] at high
  exact ⟨y, (within_iff b y).2 ⟨low.1, high.1⟩, (within_iff c y).2 ⟨low.2, high.2⟩⟩

/-- The middle of a cell lies in no other cell. -/
theorem findCell_mean (h : 0 < n) {bounds : Vector (ℚ × ℚ) n}
    (wide : ∀ i : Fin n, (bounds.get i).1 ≠ (bounds.get i).2)
    (disjoint : ∀ (i j : Fin n) (x : ℚ),
      Within (bounds.get i) x → Within (bounds.get j) x → i = j)
    (i : Fin n) : findCell h bounds (mean (bounds.get i)) = i := by
  have within := within_mean (wide i)
  obtain ⟨above, below⟩ := (within_iff _ _).1 within
  apply findCell_eq
  · simp only [Fraction.le_eq, Bool.and_eq_true, decide_eq_true_eq]
    exact ⟨above.le, below.le⟩
  · intro j before
    rw [Bool.eq_false_iff]
    simp only [ne_eq, Fraction.le_eq, Bool.and_eq_true, decide_eq_true_eq]
    rintro ⟨lowest, highest⟩
    obtain ⟨y, mine, other⟩ := within_both (wide j) within lowest highest
    exact absurd (disjoint i j y mine other) before.ne'

end Stored

/-! ## All layouts -/

/-- No two samples of the scale are the same: its ends differ, or its points, its edges are in
order, or its cells have an extent and no interior in common. -/
def NonDegenerate (s : Scale ℚ) : Prop :=
  match s.layout with
  | .regular => s.size = 1 ∨ s.start ≠ s.stop
  | .points values => ∀ i j : Fin s.size, values[i] = values[j] → i = j
  | .edges values => Rising values ∨ Falling values
  | .cells bounds =>
      (∀ i : Fin s.size, bounds[i].1 ≠ bounds[i].2) ∧
        ∀ (i j : Fin s.size) (x : ℚ), Within bounds[i] x → Within bounds[j] x → i = j

/-- Each sample is found at its own position, whatever the layout and the order. -/
theorem find_coordValues (s : Scale ℚ) (distinct : s.NonDegenerate) (i : Fin s.size) :
    s.find s.coordValues[i] = .ok i := by
  have position : s.coordValues[i] = s.coordValue i := by
    rw [coordValues, Fin.getElem_fin, Vector.getElem_ofFn]
  rw [position]
  by_cases single : s.size = 1
  · exact find_of_single rfl single i
  cases layout : s.layout with
  | regular =>
      simp only [NonDegenerate, layout] at distinct
      have apart := distinct.resolve_left single
      rw [find_regular_iff layout apart single, coordValue, layout]
      rw [steps_coordValue apart single]
      exact ⟨.inr (by linarith), .inr (by linarith)⟩
  | points values =>
      simp only [NonDegenerate, layout] at distinct
      rw [find_points rfl single layout, coordValue, layout]
      exact congrArg Except.ok (findPoint_self s.size_pos distinct i)
  | edges values =>
      simp only [NonDegenerate, layout] at distinct
      rw [find_edges rfl single layout, coordValue, layout]
      exact congrArg Except.ok (findEdge_middle s.size_pos distinct i)
  | cells bounds =>
      simp only [NonDegenerate, layout] at distinct
      rw [find_cells rfl single layout, coordValue, layout]
      exact congrArg Except.ok (findCell_mean s.size_pos distinct.1 distinct.2 i)

/-- Three points in no order. -/
def scattered : Scale ℚ := ⟨3, by decide, 2, 5 / 2, .points #v[2, -1, 5 / 2]⟩

theorem find_coordValues_scattered :
    scattered.NonDegenerate ∧
      scattered.find scattered.coordValues[(⟨1, by decide⟩ : Fin scattered.size)] =
        .ok ⟨1, by decide⟩ := by
  have distinct : scattered.NonDegenerate := by
    change ∀ i j : Fin 3, #v[(2 : ℚ), -1, 5 / 2][i] = #v[(2 : ℚ), -1, 5 / 2][j] → i = j
    decide +kernel
  exact ⟨distinct, find_coordValues scattered distinct ⟨1, by decide⟩⟩

end Meteo.Scale
