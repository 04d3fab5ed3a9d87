/-
# Meteo.Proofs.Axis.Origin -- the kind of an axis and where it is counted from

Whether samples are evenly spaced is read off their steps, and a step stays the same when
everything is counted from another origin (`isRegular_moved`).  Whether cells touch is read
off the bounds themselves: neighbours touch if the gap between them is small relative to
the edge at which the next one begins.  The farther an axis is from its origin, the wider
the gaps that count as none.

Over exact fractions this is described completely (`ofSamples_moved`).  Unevenly spaced
cells are of the same kind from every origin exactly if no gap is wider than the absolute
tolerance alone; otherwise they touch from an origin far away and have gaps from one that
is near.
-/
import Mathlib.Algebra.Order.BigOperators.Group.Finset
import Mathlib.Data.Fintype.Prod
import Mathlib.Tactic.Linarith
import Meteo.Proofs.Axis.Steps
import Meteo.Proofs.Block
import Meteo.Proofs.Number.Fraction

namespace Meteo.Spacing

set_option autoImplicit false

open Ordinate

/-! ## Samples and cells as blocks -/

section Blocks

variable {α : Type} [Ordinate α] {n : Nat}

theorem isRegularBlock_ofVector (rtol : α) (values : Vector α n) :
    isRegularBlock rtol (.ofVector values) = .ok (isRegular rtol values.toList) := by
  have rank : (Block.ofVector values).rank = 1 := rfl
  have cells : (Block.ofVector values).cells.toList = values.toList := rfl
  rw [isRegularBlock]
  simp only [cells, rank, if_true]
  generalize values.toList = samples
  split
  · next short =>
    rcases samples with _ | ⟨a, _ | ⟨b, rest⟩⟩
    · rfl
    · rfl
    · rw [List.length_cons, List.length_cons] at short
      omega
  · rfl

theorem isContiguousBlock_ofPairs (bounds : Vector (α × α) n) :
    isContiguousBlock (.ofPairs bounds) = .ok (isContiguous bounds.toList) := by
  rw [isContiguousBlock]
  simp only [Block.shape_ofPairs, Block.pairs?_ofPairs, Option.map_some, Option.getD_some]

theorem ofSamples_points (values : Vector α n) : ofSamples (.ofVector values) none none =
    .ok (classify (isRegular regularTolerance values.toList) false false) := by
  rw [ofSamples, isRegularBlock_ofVector]
  rfl

theorem ofSamples_ofPairs {m : Nat} (values : Vector α n) (bounds : Vector (α × α) m) :
    ofSamples (.ofVector values) (some (.ofPairs bounds)) none =
      .ok (classify (isRegular regularTolerance values.toList) true
        (isContiguous bounds.toList)) := by
  rw [ofSamples, isRegularBlock_ofVector]
  simp only [isContiguousBlock_ofPairs]
  rfl

/-- Cells touch if any two neighbours do. -/
theorem isContiguous_iff (bounds : List (α × α)) : isContiguous bounds = true ↔
    ∀ (i : Nat) (h : i + 1 < bounds.length),
      close (tenth 5) (tenth 8) bounds[i].2 bounds[i + 1].1 = true := by
  fun_induction isContiguous bounds with
  | case1 b c rest ih =>
      rw [Bool.and_eq_true, ih]
      constructor
      · rintro ⟨first, others⟩ (_ | i) h
        · exact first
        · exact others i (Nat.lt_of_succ_lt_succ h)
      · intro all
        exact ⟨all 0 (by simp), fun i h => all (i + 1) (Nat.succ_lt_succ h)⟩
  | case2 bounds short =>
      refine iff_of_true rfl fun i h => ?_
      rcases bounds with _ | ⟨b, _ | ⟨c, rest⟩⟩
      · cases h
      · exact absurd (Nat.lt_of_succ_lt_succ h) (Nat.not_lt_zero i)
      · exact (short b c rest rfl).elim

theorem isContiguous_toList_iff (bounds : Vector (α × α) n) : isContiguous bounds.toList = true ↔
    ∀ i j : Fin n, i.val + 1 = j.val →
      close (tenth 5) (tenth 8) (bounds.get i).2 (bounds.get j).1 = true := by
  have length : bounds.toList.length = n := Vector.length_toList
  rw [isContiguous_iff]
  constructor
  · rintro all i ⟨j, hj⟩ rfl
    exact all i (by omega)
  · intro all i h
    exact all ⟨i, by omega⟩ ⟨i + 1, by omega⟩ rfl

end Blocks

/-! ## Another origin -/

theorem differences_moved (c : ℚ) (values : List ℚ) :
    differences (values.map (· + c)) = differences values := by
  fun_induction differences values with
  | case1 a b rest ih =>
      rw [List.map_cons] at ih
      rw [List.map_cons, List.map_cons, differences, ih, add_sub_add_right_eq_sub]
  | case2 values short =>
      rcases values with _ | ⟨a, _ | ⟨b, rest⟩⟩
      · rfl
      · rfl
      · exact (short a b rest rfl).elim

/-- Even spacing does not depend on the origin. -/
theorem isRegular_moved (rtol c : ℚ) (values : List ℚ) :
    isRegular rtol (values.map (· + c)) = isRegular rtol values := by
  have steps := differences_moved c values
  rcases values with _ | ⟨a, _ | ⟨b, _ | ⟨d, rest⟩⟩⟩
  · rfl
  · rfl
  · simp [isRegular]
  · rw [List.map_cons, List.map_cons, List.map_cons] at steps ⊢
    have even (x y z : ℚ) (others : List ℚ) : isRegular rtol (x :: y :: z :: others) =
        isEven rtol (differences (x :: y :: z :: others)) := rfl
    rw [even, even, steps]

variable {n m : ℕ}

/-- Every cell begins where the one before it ends, within the tolerance that an edge has when it is
counted from an origin `c` farther away. -/
def Touching (bounds : Vector (ℚ × ℚ) m) (c : ℚ) : Prop :=
  ∀ i j : Fin m, i.val + 1 = j.val →
    |(bounds.get i).2 - (bounds.get j).1| ≤ 1 / 10 ^ 8 + 1 / 10 ^ 5 * |(bounds.get j).1 + c|

instance (bounds : Vector (ℚ × ℚ) m) (c : ℚ) : Decidable (Touching bounds c) :=
  inferInstanceAs (Decidable (∀ i j : Fin m, i.val + 1 = j.val → _))

theorem tenth_eq (k : ℕ) : (tenth k : ℚ) = 1 / 10 ^ k := by
  rw [tenth, Fraction.ofNat_eq, Fraction.ofNat_eq]
  push_cast [Nat.pow_eq]
  rfl

theorem close_iff {rtol atol x y : ℚ} (relative : 0 ≤ rtol) (absolute : 0 ≤ atol) :
    close rtol atol x y = true ↔ |x - y| ≤ atol + rtol * |y| := by
  simp only [close, Fraction.le_eq, Fraction.abs_eq, Fraction.eq_eq, Bool.or_eq_true,
    Bool.and_eq_true, decide_eq_true_eq]
  constructor
  · rintro (⟨near, -⟩ | same)
    · exact near
    · rw [same, sub_self, abs_zero]
      positivity
  · exact fun near => .inl ⟨near, rfl⟩

/-- Bounds counted from another origin. -/
def movedBounds (bounds : Vector (ℚ × ℚ) m) (c : ℚ) : Vector (ℚ × ℚ) m :=
  bounds.map fun b => (b.1 + c, b.2 + c)

theorem get_movedBounds (bounds : Vector (ℚ × ℚ) m) (c : ℚ) (i : Fin m) :
    (movedBounds bounds c).get i = ((bounds.get i).1 + c, (bounds.get i).2 + c) := by
  change (movedBounds bounds c)[i.val] = _
  rw [movedBounds, Vector.getElem_map]
  rfl

/-- A gap is the same from every origin, but not what it is compared with. -/
theorem isContiguous_moved (bounds : Vector (ℚ × ℚ) m) (c : ℚ) :
    isContiguous (movedBounds bounds c).toList = decide (Touching bounds c) := by
  have relative : (0 : ℚ) ≤ tenth 5 := by rw [tenth_eq]; positivity
  have absolute : (0 : ℚ) ≤ tenth 8 := by rw [tenth_eq]; positivity
  rw [Bool.eq_iff_iff, isContiguous_toList_iff, decide_eq_true_eq]
  simp only [close_iff relative absolute, get_movedBounds, add_sub_add_right_eq_sub]
  rw [tenth_eq, tenth_eq]
  rfl

/-! ## The kind from every origin -/

/-- The kind of samples in cells, all counted from another origin. -/
def kindFrom (values : Vector ℚ n) (bounds : Vector (ℚ × ℚ) m) (c : ℚ) : Except Error Spacing :=
  ofSamples (.ofVector (values.map (· + c))) (some (.ofPairs (movedBounds bounds c))) none

/-- Uneven cells touch or have gaps, as it looks from the origin. -/
theorem kindFrom_eq (values : Vector ℚ n) (bounds : Vector (ℚ × ℚ) m) (c : ℚ) :
    kindFrom values bounds c = .ok
      (if isRegular regularTolerance values.toList then .regular
        else if Touching bounds c then .contiguousInterval
        else .discontiguousInterval) := by
  rw [kindFrom, ofSamples_ofPairs, Vector.toList_map, isRegular_moved, isContiguous_moved, classify]
  simp only [Bool.not_true, Bool.false_eq_true, if_false, decide_eq_true_eq]

/-- No gap is wider than the tolerance of an edge at the origin. -/
def Tight (bounds : Vector (ℚ × ℚ) m) : Prop :=
  ∀ i j : Fin m, i.val + 1 = j.val → |(bounds.get i).2 - (bounds.get j).1| ≤ 1 / 10 ^ 8

theorem touching_of_tight {bounds : Vector (ℚ × ℚ) m} (tight : Tight bounds) (c : ℚ) :
    Touching bounds c := by
  intro i j next
  have := tight i j next
  have : (0 : ℚ) ≤ 1 / 10 ^ 5 * |(bounds.get j).1 + c| := by positivity
  linarith

/-- From an origin at one of its edges a cell touches its neighbour only without a gap. -/
theorem tight_of_touching {bounds : Vector (ℚ × ℚ) m} (touching : ∀ c, Touching bounds c) :
    Tight bounds := by
  intro i j next
  have near := touching (-(bounds.get j).1) i j next
  rwa [add_neg_cancel, abs_zero, mul_zero, add_zero] at near

/-- From far enough away all cells touch. -/
theorem exists_touching (bounds : Vector (ℚ × ℚ) m) : ∃ c, Touching bounds c := by
  let reach (p : Fin m × Fin m) : ℚ :=
    |(bounds.get p.2).1| + 10 ^ 5 * |(bounds.get p.1).2 - (bounds.get p.2).1|
  refine ⟨∑ p, reach p, fun i j _ => ?_⟩
  have far : reach (i, j) ≤ ∑ p, reach p :=
    Finset.single_le_sum (fun p _ => by positivity) (Finset.mem_univ (i, j))
  have away := le_abs_self ((bounds.get j).1 + ∑ p, reach p)
  have edge := neg_abs_le (bounds.get j).1
  change |(bounds.get j).1| + 10 ^ 5 * |(bounds.get i).2 - (bounds.get j).1| ≤ _ at far
  linarith

theorem kindFrom_zero (values : Vector ℚ n) (bounds : Vector (ℚ × ℚ) m) :
    kindFrom values bounds 0 = ofSamples (.ofVector values) (some (.ofPairs bounds)) none := by
  have samples : values.map (· + (0 : ℚ)) = values := by simp
  have cells : movedBounds bounds 0 = bounds := by simp [movedBounds]
  rw [kindFrom, samples, cells]

/-- Uneven cells that are of one kind from two origins touch from both or from none. -/
theorem touching_iff_of_kindFrom {values : Vector ℚ n} {bounds : Vector (ℚ × ℚ) m} {c d : ℚ}
    (uneven : isRegular regularTolerance values.toList = false)
    (same : kindFrom values bounds c = kindFrom values bounds d) :
    Touching bounds c ↔ Touching bounds d := by
  rw [kindFrom_eq, kindFrom_eq, uneven] at same
  by_cases first : Touching bounds c
  · by_cases second : Touching bounds d
    · exact iff_of_true first second
    · simp [first, second] at same
  · by_cases second : Touching bounds d
    · simp [first, second] at same
    · exact iff_of_false first second

/-- What the kind of samples depends on when everything is counted from an origin `c` farther away:
without cells on nothing, and with cells on whether each of them touches its neighbour from there,
unless the samples are evenly spaced.  So it is the same from every origin exactly if the samples
are evenly spaced or no gap is wider than the tolerance of an edge at the origin. -/
theorem ofSamples_moved (values : Vector ℚ n) (bounds : Vector (ℚ × ℚ) m) :
    (∀ c, ofSamples (.ofVector (values.map (· + c))) none none =
      ofSamples (.ofVector values) none none) ∧
    (∀ c, kindFrom values bounds c = .ok
      (if isRegular regularTolerance values.toList then .regular
        else if Touching bounds c then .contiguousInterval
        else .discontiguousInterval)) ∧
    ((∀ c, kindFrom values bounds c =
        ofSamples (.ofVector values) (some (.ofPairs bounds)) none) ↔
      isRegular regularTolerance values.toList = true ∨ Tight bounds) := by
  refine ⟨fun c => ?_, kindFrom_eq values bounds, ?_⟩
  · rw [ofSamples_points, ofSamples_points, Vector.toList_map, isRegular_moved]
  · rw [← kindFrom_zero]
    constructor
    · intro same
      cases even : isRegular regularTolerance values.toList with
      | true => exact .inl rfl
      | false =>
          obtain ⟨far, touching⟩ := exists_touching bounds
          refine .inr (tight_of_touching fun c => ?_)
          exact (touching_iff_of_kindFrom even ((same far).trans (same c).symm)).1 touching
    · rintro (even | tight) c
      · rw [kindFrom_eq, kindFrom_eq, even]
        rfl
      · rw [kindFrom_eq, kindFrom_eq]
        simp only [touching_of_tight tight]

/-- The kind of samples in cells is the same from every origin. -/
def KeepsKind : Prop :=
  ∀ (n m : ℕ) (values : Vector ℚ n) (bounds : Vector (ℚ × ℚ) m) (c : ℚ),
    kindFrom values bounds c = ofSamples (.ofVector values) (some (.ofPairs bounds)) none

/-- Hours with one and two hours between them have gaps when they are counted from the first of
them, and touch when they are counted from an instant decades before. -/
theorem not_keepsKind : ¬ KeepsKind := by
  intro keeps
  have same := keeps 3 3 #v[0, 7200, 18000] #v[(0, 3600), (7200, 10800), (18000, 21600)] 1700000000
  rw [← kindFrom_zero, kindFrom_eq, kindFrom_eq] at same
  exact absurd (Except.ok.inj same) (by decide +kernel)

end Meteo.Spacing
