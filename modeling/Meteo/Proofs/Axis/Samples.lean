/-
# Meteo.Proofs.Axis.Samples -- samples in their cells, looked up at their own positions

A sample may lie anywhere in its cell, also on an edge that the cell shares with a
neighbour.  Cells that touch are searched by their edges, and the cell that begins at the
position wins, which is the next one (`findEdge_own`); of cells with gaps the first that
contains the position wins, which is the one before (`findCell_own`).  At any other position
a sample is found at its own: only one neighbour competes for it (`neighbour`), and
`owner` is that neighbour if its cell contains the position.

As in `Meteo.Proofs.Axis.Cells` the edges of touching cells can only be read off bounds
that are given in the order of the samples (`BoundsAlong`).  Cells without extent are
allowed here.
-/
import Meteo.Proofs.Axis.Cells

namespace Meteo.Scale

set_option autoImplicit false

open Ordinate OrderedOrdinate LinearOrdinate

section

variable {α : Type} [Ordinate α] {n : Nat}

/-- Whether a position lies within a cell or on one of its edges. -/
def contains (b : α × α) (x : α) : Bool := le (lower b) x && le x (upper b)

/-- Finite samples in order, each in a cell of its own, no cell reaching beyond an edge of
another. -/
structure CellsAround (values : Vector α n) (bounds : Vector (α × α) n) : Prop where
  finite (i : Fin n) : isFinite (values.get i)
  contains (i : Fin n) : contains (bounds.get i) (values.get i)
  ordered :
    Rising values ∧ (∀ i j : Fin n, i < j → le (upper (bounds.get i)) (lower (bounds.get j))) ∨
      Falling values ∧ ∀ i j : Fin n, i < j → le (upper (bounds.get j)) (lower (bounds.get i))

/-- The two bounds of each cell are given in the order of the samples. -/
def BoundsAlong (values : Vector α n) (bounds : Vector (α × α) n) : Prop :=
  (Rising values → ∀ i : Fin n, le (bounds.get i).1 (bounds.get i).2) ∧
    (Falling values → ∀ i : Fin n, le (bounds.get i).2 (bounds.get i).1)

instance (values : Vector α n) (bounds : Vector (α × α) n) :
    Decidable (BoundsAlong values bounds) := inferInstanceAs (Decidable (_ ∧ _))

/-- The next index; the last one has none behind it. -/
def next (i : Fin n) : Fin n := ⟨min (i.val + 1) (n - 1), by omega⟩

/-- The index before; the first one has none. -/
def previous (i : Fin n) : Fin n := ⟨i.val - 1, by omega⟩

/-- The cell that an edge may belong to instead. -/
def neighbour : Spacing → Fin n → Fin n
  | .contiguousInterval => next
  | .discontiguousInterval => previous
  | .regular | .irregularPoint => id

/-- The sample to which the position of a sample belongs. -/
def owner (spacing : Spacing) (values : Vector α n) (bounds : Vector (α × α) n) (i : Fin n) :
    Fin n :=
  if contains (bounds.get (neighbour spacing i)) (values.get i) then neighbour spacing i else i

end

/-! ## The edges of cells that touch -/

section Edges

variable {α : Type} {n : Nat}

/-- Edges with a sample between each two of them, in the order `t` of the samples. -/
structure Between (t : α → α → Bool) (edges : Vector α (n + 1)) (values : Vector α n) : Prop where
  start (i : Fin n) : t (edges.get i.castSucc) (values.get i)
  stop (i : Fin n) : t (values.get i) (edges.get i.succ)

variable {values : Vector α n} {bounds : Vector (α × α) n} {i : Fin n}

/-- Shared edges lie around the samples if the bounds do, in an order of the samples. -/
theorem between_sharedEdges {t : α → α → Bool} (h : 0 < n)
    (trans : ∀ {x y z : α}, t x y → t y z → t x z)
    (starts : ∀ i : Fin n, t (bounds.get i).1 (values.get i))
    (stops : ∀ i : Fin n, t (values.get i) (bounds.get i).2)
    (apart : ∀ {i j : Fin n}, i < j → t (bounds.get i).2 (bounds.get j).1) :
    Between t (sharedEdges h bounds) values := by
  constructor
  · intro i
    have first : (sharedEdges h bounds).get i.castSucc = (bounds.get i).1 :=
      getElem_sharedEdges_of_lt h bounds i.isLt
    rw [first]
    exact starts i
  · intro i
    exact sharedEdges_succ (r := t) h trans apart (stops i)

theorem next_of_last (last : i.val + 1 = n) : next i = i := by
  rw [Fin.ext_iff, next]
  dsimp only
  omega

theorem lt_next (inside : i.val + 1 < n) : i < next i := by
  rw [Fin.lt_def, next]
  dsimp only
  omega

theorem sharedEdges_next (h : 0 < n) (inside : i.val + 1 < n) :
    (sharedEdges h bounds).get i.succ = (bounds.get (next i)).1 := by
  have index : next i = ⟨i.val + 1, inside⟩ := by
    rw [Fin.ext_iff, next]
    dsimp only
    omega
  rw [index]
  exact getElem_sharedEdges_of_lt h bounds inside

end Edges

variable {α : Type} [Ordinate α] {n : Nat}

/-- The next sample wins an edge that its cell contains; the last sample has no rival. -/
theorem ite_next_eq_owner {values : Vector α n} {bounds : Vector (α × α) n} {i : Fin n}
    {on : Bool}
    (same : i.val + 1 < n → on = contains (bounds.get (next i)) (values.get i)) :
    (if on then next i else i) = owner .contiguousInterval values bounds i := by
  rw [owner, neighbour]
  by_cases last : i.val + 1 = n
  · rw [next_of_last last, ite_self, ite_self]
  · rw [same (by omega)]

theorem get_neg {m : Nat} (xs : Vector α m) (i : Fin m) :
    (xs.map (- ·)).get i = -xs.get i :=
  Vector.getElem_map _ i.isLt

variable [LinearOrdinate α]

/-! ## Samples among edges -/

section Among

variable {edges : Vector α (n + 1)} {values : Vector α n}

/-- The edges that a sample has reached: those up to its own, and the next one if the sample lies
on it. -/
theorem edgesUpTo_own (rising : Rising values) (between : Between le edges values) (k : Fin n) :
    edgesUpTo edges (values.get k) =
      if le (edges.get k.succ) (values.get k) then k.val + 2 else k.val + 1 := by
  obtain ⟨i, h⟩ := k
  change edgesUpTo edges values[i] = if le edges[i + 1] values[i] then i + 2 else i + 1
  -- Two edges may be equal, so it is the samples between them that keep the other edges away.
  have isNumber (j : Nat) (hj : j < n + 1) : isNaN edges[j] = false := by
    rcases Nat.lt_or_eq_of_le (Nat.le_of_lt_succ hj) with inside | last
    · exact (isNaN_of_le (between.start ⟨j, inside⟩)).1
    · have final : le values[n - 1] edges[n - 1 + 1] := between.stop ⟨n - 1, by omega⟩
      simp only [show n - 1 + 1 = j by omega] at final
      exact (isNaN_of_le final).2
  have reached (j : Nat) (hj : j ≤ i) : lt values[i] edges[j] = false := by
    refine not_lt_of_le ?_
    rcases Nat.lt_or_eq_of_le hj with earlier | same
    · exact le_trans (between.start ⟨j, by omega⟩) (le_of_lt (rising j i h earlier))
    · simp only [same]
      exact between.start ⟨i, h⟩
  have beyond (j : Nat) (hj : j < n + 1) (behind : i + 2 ≤ j) : lt values[i] edges[j] := by
    obtain ⟨m, rfl⟩ : ∃ m, j = m + 1 := ⟨j - 1, by omega⟩
    exact lt_of_lt_of_le (rising i m (by omega) (by omega)) (between.stop ⟨m, by omega⟩)
  split
  · next on =>
    refine edgesUpTo_of_numbers (by omega) isNumber (fun j _ hj => ?_) beyond
    rcases Nat.lt_or_eq_of_le (Nat.le_of_lt_succ hj) with upTo | same
    · exact reached j (Nat.le_of_lt_succ upTo)
    · simp only [same]
      exact not_lt_of_le on
  · next off =>
    refine edgesUpTo_of_numbers (by omega) isNumber
      (fun j _ hj => reached j (Nat.le_of_lt_succ hj)) fun j hj behind => ?_
    rcases Nat.lt_or_eq_of_le behind with further | same
    · exact beyond j hj further
    · simp only [← same]
      exact lt_of_le_of_not_le (between.stop ⟨i, h⟩) (Bool.eq_false_iff.2 off)

/-- An index counted among edges, as that of a cell. -/
theorem clamp_edges (h : 0 < n) (i : Fin n) (on : Bool) :
    clamp h ((if on then i.val + 2 else i.val + 1 : Nat) - 1) = if on then next i else i := by
  have bound := i.isLt
  cases on with
  | true =>
      rw [if_pos rfl, if_pos rfl, clamp_eq_iff, next]
      dsimp only
      omega
  | false =>
      rw [if_neg Bool.false_ne_true, if_neg Bool.false_ne_true, clamp_eq_iff]
      omega

/-- Among the edges around rising samples, a sample is found at its own position, or the next one if
it begins there. -/
theorem findEdge_own_rising (h : 0 < n) (rising : Rising values) (between : Between le edges values)
    (i : Fin n) :
    findEdge h edges (values.get i) =
      if le (edges.get i.succ) (values.get i) then next i else i := by
  have ascending : isFalling edges = false := by
    refine not_lt_of_le (le_trans (between.start ⟨0, h⟩) ?_)
    have last : le values[n - 1] edges[n - 1 + 1] := between.stop ⟨n - 1, by omega⟩
    simp only [Nat.sub_add_cancel h] at last
    by_cases single : n - 1 = 0
    · have same : le values[0] edges[n] := by simpa only [single] using last
      exact same
    · exact le_trans (le_of_lt (rising 0 (n - 1) (by omega) (by omega))) last
  have count := edgesUpTo_own rising between i
  rw [findEdge, ascending, if_neg Bool.false_ne_true]
  change clamp h ((edgesUpTo edges (values.get i) : ℤ) - 1) = _
  rw [count]
  exact clamp_edges h i _

/-- The same among the edges around falling samples. -/
theorem findEdge_own_falling (h : 0 < n) (several : n ≠ 1) (falling : Falling values)
    (between : Between (fun x y => le y x) edges values) (i : Fin n) :
    findEdge h edges (values.get i) =
      if le (values.get i) (edges.get i.succ) then next i else i := by
  have descending : isFalling edges := by
    have last : le edges[n - 1 + 1] values[n - 1] := between.stop ⟨n - 1, by omega⟩
    simp only [Nat.sub_add_cancel h] at last
    exact lt_of_le_of_lt last
      (lt_of_lt_of_le (falling 0 (n - 1) (by omega) (by omega)) (between.start ⟨0, h⟩))
  have mirrored : Between le (edges.map (- ·)) (values.map (- ·)) := by
    constructor
    · intro j
      rw [get_neg, get_neg, le_neg_neg]
      exact between.start j
    · intro j
      rw [get_neg, get_neg, le_neg_neg]
      exact between.stop j
  have count := edgesUpTo_own falling.rising_neg mirrored i
  rw [get_neg, get_neg, le_neg_neg] at count
  rw [findEdge, if_pos descending]
  change clamp h ((edgesUpTo (edges.map (- ·)) (-values.get i) : ℤ) - 1) = _
  rw [count]
  exact clamp_edges h i _

end Among

/-! ## Cells that touch -/

section Touching

variable {values : Vector α n} {bounds : Vector (α × α) n} {b : α × α} {x : α}

theorem le_snd_of_le_upper (up : le b.1 b.2) (below : le x (upper b)) : le x b.2 := by
  rw [upper] at below
  split at below
  · exact le_trans below up
  · exact below

theorem snd_le_of_upper_le (up : le b.1 b.2) (beyond : le (upper b) x) : le b.2 x := by
  rw [upper, (isNaN_of_le up).1, Bool.false_or] at beyond
  split at beyond
  · next same => exact le_trans same beyond
  · exact beyond

theorem snd_le_of_lower_le (down : le b.2 b.1) (beyond : le (lower b) x) : le b.2 x := by
  rw [lower] at beyond
  split at beyond
  · exact le_trans down beyond
  · exact beyond

theorem le_snd_of_le_lower (down : le b.2 b.1) (below : le x (lower b)) : le x b.2 := by
  rw [lower, (isNaN_of_le down).2, Bool.false_or] at below
  split at below
  · next same => exact le_trans below same
  · exact below

/-- Among the edges of cells that touch, a sample is found at its own position, or the next one if
its cell begins there. -/
theorem findEdge_own (h : 0 < n) (several : n ≠ 1) (around : CellsAround values bounds)
    (along : BoundsAlong values bounds) (i : Fin n) :
    findEdge h (sharedEdges h bounds) (values.get i) =
      owner .contiguousInterval values bounds i := by
  have inside (i : Fin n) : le (lower (bounds.get i)) (values.get i) ∧
      le (values.get i) (upper (bounds.get i)) := Bool.and_eq_true_iff.1 (around.contains i)
  rcases around.ordered with ⟨rising, apart⟩ | ⟨falling, apart⟩
  · have up := along.1 rising
    have begins (i : Fin n) := lower_of_le (up i)
    have between : Between le (sharedEdges h bounds) values := by
      refine between_sharedEdges h le_trans (fun i => begins i ▸ (inside i).1)
        (fun i => le_snd_of_le_upper (up i) (inside i).2) fun {i j} before => ?_
      exact begins j ▸ snd_le_of_upper_le (up i) (apart i j before)
    rw [findEdge_own_rising h rising between]
    refine ite_next_eq_owner fun further => ?_
    have reaches : le (values.get i) (upper (bounds.get (next i))) :=
      le_trans (le_of_lt (rising_iff.1 rising i (next i) (lt_next further))) (inside (next i)).2
    rw [sharedEdges_next h further, contains, begins, reaches, Bool.and_true]
  · have down := along.2 falling
    have begins (i : Fin n) := upper_of_ge (down i)
    have between : Between (fun x y => le y x) (sharedEdges h bounds) values := by
      refine between_sharedEdges h (fun hxy hyz => le_trans hyz hxy)
        (fun i => begins i ▸ (inside i).2) (fun i => snd_le_of_lower_le (down i) (inside i).1)
        fun {i j} before => ?_
      exact begins j ▸ le_snd_of_le_lower (down i) (apart i j before)
    rw [findEdge_own_falling h several falling between]
    refine ite_next_eq_owner fun further => ?_
    have reaches : le (lower (bounds.get (next i))) (values.get i) :=
      le_trans (inside (next i)).1 (le_of_lt (falling_iff.1 falling i (next i) (lt_next further)))
    rw [sharedEdges_next h further, contains, begins, reaches, Bool.true_and]

end Touching

/-! ## Cells with gaps -/

section Apart

variable {values : Vector α n} {bounds : Vector (α × α) n}

/-- A sample lies outside all cells before the previous one. -/
theorem not_contains_of_lt (around : CellsAround values bounds) {i j : Fin n}
    (before : j.val + 1 < i.val) : contains (bounds.get j) (values.get i) = false := by
  let between : Fin n := ⟨j.val + 1, by omega⟩
  have behind : j < between := Nat.lt_succ_self j.val
  have inside := Bool.and_eq_true_iff.1 (around.contains between)
  rcases around.ordered with ⟨rising, apart⟩ | ⟨falling, apart⟩
  · have further := rising_iff.1 rising between i before
    have passed := not_le_of_lt (lt_of_le_of_lt (le_trans (apart j between behind) inside.1) further)
    rw [contains, passed, Bool.and_false]
  · have further := falling_iff.1 falling between i before
    have ahead := not_le_of_lt (lt_of_lt_of_le further (le_trans inside.2 (apart j between behind)))
    rw [contains, ahead, Bool.false_and]

/-- Among the cells themselves, a sample is found at its own position, or the previous one if its
cell reaches to there. -/
theorem findCell_own (h : 0 < n) (around : CellsAround values bounds) (i : Fin n) :
    findCell h bounds (values.get i) = owner .discontiguousInterval values bounds i := by
  rw [owner, neighbour]
  split
  · next shared =>
    refine findCell_eq h (previous i) shared fun j before => not_contains_of_lt around ?_
    have : j.val < i.val - 1 := before
    omega
  · next own =>
    refine findCell_eq h i (around.contains i) fun j before => ?_
    by_cases last : j.val + 1 = i.val
    · have same : j = previous i := Fin.ext (Nat.eq_sub_of_add_eq last)
      exact same ▸ Bool.eq_false_iff.2 own
    · have : j.val < i.val := before
      exact not_contains_of_lt around (by omega)

end Apart

/-! ## Samples in cells -/

/-- On scales that are described by cells, every sample or its neighbour is found at its position. -/
theorem find_own {values : Vector α n} {bounds : Vector (α × α) n}
    (around : CellsAround values bounds) {s : Scale α}
    (made : ofSamples (.ofVector values) (some (.ofPairs bounds)) none = .ok s)
    (kind : s.spacing = .contiguousInterval ∧ BoundsAlong values bounds ∨
      s.spacing = .discontiguousInterval) (i : Fin n) :
    s.Finds (values.get i) (owner s.spacing values bounds i) := by
  have shown := spacing_layoutOf i.pos values bounds (spacingOf values bounds)
  obtain rfl := Except.ok.inj ((ofSamples_cells i.pos values bounds).symm.trans made)
  rw [spacing, shown] at kind ⊢
  refine ⟨owner (spacingOf values bounds) values bounds i, ?_, rfl⟩
  by_cases single : n = 1
  · exact find_of_single (around.finite i) single _
  rcases kind with ⟨touching, along⟩ | apart
  · rw [touching, find_edges (around.finite i) single rfl]
    exact congrArg Except.ok (findEdge_own i.pos single around along i)
  · rw [apart, find_cells (around.finite i) single rfl]
    exact congrArg Except.ok (findCell_own i.pos around i)

end Meteo.Scale
