/-
# Meteo.Proofs.Axis.Cells -- positions within the cells of samples

Samples may come with the bounds of their cells.  When the cells follow one another
without overlap, a position strictly within a cell is looked up to that cell: on cells
with gaps whichever way the two bounds of each cell are given (`findCell_within`), on
cells that touch when they are given in the order of the cells (`findEdge_within`).

Evenly spaced samples are described by their ends and their size alone, so there the
cells play no part; nor can the edges of touching cells be read off bounds that run
against the order of the cells.  In both cases a position within a cell may be looked
up to another sample.

All of this is said of any `OrderedOrdinate`, doubles included.
-/
import Meteo.Proofs.Axis.Build
import Meteo.Proofs.Axis.Search
import Meteo.Proofs.Number.Double

namespace Meteo.Scale

set_option autoImplicit false

open Ordinate OrderedOrdinate

/-- A position is looked up to the sample with an index. -/
def Finds {α : Type} [Ordinate α] (s : Scale α) (x : α) (i : Nat) : Prop :=
  ∃ k : Fin s.size, s.find x = .ok k ∧ k.val = i

instance {α : Type} [Ordinate α] (s : Scale α) (x : α) (i : Nat) : Decidable (s.Finds x i) :=
  inferInstanceAs (Decidable (∃ k : Fin s.size, s.find x = .ok k ∧ k.val = i))

section Edges

variable {α : Type} {n : Nat} {bounds : Vector (α × α) n} {r t : α → α → Bool}

/-! ## The edges of cells in order

An order `r` of the cells comes with a relation `t` that also allows two cells to
touch; in rising cells these are less and at most, in falling ones greater and at least. -/

/-- Shared edges are in an order in which the bounds of each cell are and the cells are. -/
theorem sharedEdges_ordered (h : 0 < n)
    (trans : ∀ {a b c : α}, r a b → r b c → r a c)
    (trans_touch : ∀ {a b c : α}, r a b → t b c → r a c)
    (wide : ∀ i : Fin n, r (bounds.get i).1 (bounds.get i).2)
    (apart : ∀ {i j : Fin n}, i < j → t (bounds.get i).2 (bounds.get j).1)
    (i j : Fin (n + 1)) (before : i < j) :
    r ((sharedEdges h bounds).get i) ((sharedEdges h bounds).get j) := by
  obtain ⟨j, hj⟩ := j
  obtain ⟨i, hi⟩ := i
  change r (sharedEdges h bounds)[i] (sharedEdges h bounds)[j]
  replace before : i < j := before
  have below : i < n := by omega
  have begins {j : Nat} (inside : j < n) (before : i < j) : r bounds[i].1 bounds[j].1 :=
    trans_touch (wide ⟨i, below⟩) (apart (i := ⟨i, below⟩) (j := ⟨j, inside⟩) before)
  rw [getElem_sharedEdges_of_lt h bounds below]
  rcases Nat.lt_or_eq_of_le (Nat.le_of_lt_succ hj) with inside | last
  · rw [getElem_sharedEdges_of_lt h bounds inside]
    exact begins inside before
  · rw [getElem_sharedEdges_of_eq h bounds last]
    have final := wide ⟨n - 1, by omega⟩
    rcases Nat.lt_or_eq_of_le (Nat.le_sub_one_of_lt below) with earlier | same
    · exact trans (begins (by omega) earlier) final
    · subst same
      exact final

/-- The edge at which the next cell begins is the end of the cell or lies behind it. -/
theorem sharedEdges_succ (h : 0 < n)
    (trans_touch : ∀ {a b c : α}, r a b → t b c → r a c)
    (apart : ∀ {i j : Fin n}, i < j → t (bounds.get i).2 (bounds.get j).1) {i : Fin n} {x : α}
    (within : r x (bounds.get i).2) : r x ((sharedEdges h bounds).get i.succ) := by
  change r x (sharedEdges h bounds)[i.val + 1]
  by_cases inside : i.val + 1 < n
  · rw [getElem_sharedEdges_of_lt h bounds inside]
    exact trans_touch within (apart (i := i) (j := ⟨i.val + 1, inside⟩) (Nat.lt_succ_self _))
  · have last : i.val + 1 = n := by omega
    have same : bounds[n - 1] = bounds.get i := by simp only [← last, Nat.add_sub_cancel]; rfl
    rw [getElem_sharedEdges_of_eq h bounds last, same]
    exact within

end Edges

section Ordered

variable {α : Type} [Ordinate α] {n : Nat}

/-- Cells with an extent, none beginning before an earlier one has ended. -/
structure RisingCells (bounds : Vector (α × α) n) : Prop where
  wide (i : Fin n) : lt (lower (bounds.get i)) (upper (bounds.get i))
  apart {i j : Fin n} (before : i < j) : le (upper (bounds.get i)) (lower (bounds.get j))

/-- Cells with an extent, none ending behind the beginning of an earlier one. -/
structure FallingCells (bounds : Vector (α × α) n) : Prop where
  wide (i : Fin n) : lt (lower (bounds.get i)) (upper (bounds.get i))
  apart {i j : Fin n} (before : i < j) : le (upper (bounds.get j)) (lower (bounds.get i))

instance (bounds : Vector (α × α) n) : Decidable (RisingCells bounds) :=
  decidable_of_iff ((∀ i : Fin n, lt (lower (bounds.get i)) (upper (bounds.get i))) ∧
      ∀ i j : Fin n, i < j → le (upper (bounds.get i)) (lower (bounds.get j)))
    ⟨fun h => ⟨h.1, h.2 _ _⟩, fun h => ⟨h.wide, fun _ _ => h.apart⟩⟩

instance (bounds : Vector (α × α) n) : Decidable (FallingCells bounds) :=
  decidable_of_iff ((∀ i : Fin n, lt (lower (bounds.get i)) (upper (bounds.get i))) ∧
      ∀ i j : Fin n, i < j → le (upper (bounds.get j)) (lower (bounds.get i)))
    ⟨fun h => ⟨h.1, h.2 _ _⟩, fun h => ⟨h.wide, fun _ _ => h.apart⟩⟩

/-- The two bounds of each cell are given in the order of the cells. -/
def InOrder (bounds : Vector (α × α) n) : Prop :=
  RisingCells bounds ∧ (∀ i : Fin n, lt (bounds.get i).1 (bounds.get i).2) ∨
    FallingCells bounds ∧ (∀ i : Fin n, lt (bounds.get i).2 (bounds.get i).1)

/-! ## The two bounds of a cell -/

theorem lower_of_le {b : α × α} (up : le b.1 b.2) : lower b = b.1 := by
  rw [lower, up, Bool.or_true, if_pos rfl]

theorem upper_of_ge {b : α × α} (down : le b.2 b.1) : upper b = b.1 := by
  rw [upper, down, Bool.or_true, if_pos rfl]

variable [OrderedOrdinate α] {bounds : Vector (α × α) n} {i : Fin n} {x : α}

theorem lower_of_lt {b : α × α} (up : lt b.1 b.2) : lower b = b.1 := lower_of_le (le_of_lt up)

theorem upper_of_lt {b : α × α} (up : lt b.1 b.2) : upper b = b.2 := by
  rw [upper, (isNaN_of_lt up).1, not_le_of_lt up, Bool.or_false, if_neg (by decide)]

theorem lower_of_gt {b : α × α} (down : lt b.2 b.1) : lower b = b.2 := by
  rw [lower, (isNaN_of_lt down).2, not_le_of_lt down, Bool.or_false, if_neg (by decide)]

theorem upper_of_gt {b : α × α} (down : lt b.2 b.1) : upper b = b.1 := upper_of_ge (le_of_lt down)

/-! ## Cells with gaps -/

/-- Of ordered cells only one contains a position strictly within it. -/
theorem findCell_within (h : 0 < n) (ordered : RisingCells bounds ∨ FallingCells bounds)
    (within : Within (bounds.get i) x) : findCell h bounds x = i := by
  apply findCell_eq
  · rw [le_of_lt within.1, le_of_lt within.2, Bool.and_true]
  · intro j before
    rcases ordered with rising | falling
    · have passed := not_le_of_lt (lt_of_le_of_lt (rising.apart before) within.1)
      rw [passed, Bool.and_false]
    · have ahead := not_le_of_lt (lt_of_lt_of_le within.2 (falling.apart before))
      rw [ahead, Bool.false_and]

/-! ## Cells that touch -/

/-- Among the edges of cells in order, a position within a cell is found in it. -/
theorem findEdge_within (h : 0 < n) (along : InOrder bounds) (within : Within (bounds.get i) x) :
    findEdge h (sharedEdges h bounds) x = i := by
  rcases along with ⟨rising, up⟩ | ⟨falling, down⟩
  · rw [Within, lower_of_lt (up i), upper_of_lt (up i)] at within
    have apart {i j : Fin n} (before : i < j) : le (bounds.get i).2 (bounds.get j).1 := by
      have := rising.apart before
      rwa [upper_of_lt (up i), lower_of_lt (up j)] at this
    apply findEdge_of_rising h
    · rw [rising_iff]
      exact sharedEdges_ordered (r := lt) (t := le) h lt_trans lt_of_lt_of_le up apart
    · rw [getElem_sharedEdges_of_lt h bounds i.isLt]
      exact not_lt_of_lt within.1
    · exact sharedEdges_succ (r := lt) (t := le) h lt_of_lt_of_le apart within.2
  · rw [Within, lower_of_gt (down i), upper_of_gt (down i)] at within
    have apart {i j : Fin n} (before : i < j) : le (bounds.get j).1 (bounds.get i).2 := by
      have := falling.apart before
      rwa [upper_of_gt (down j), lower_of_gt (down i)] at this
    have trans {a b c : α} (hab : lt b a) (hbc : lt c b) : lt c a := lt_trans hbc hab
    have trans_touch {a b c : α} (hab : lt b a) (hbc : le c b) : lt c a := lt_of_le_of_lt hbc hab
    apply findEdge_of_falling h
    · rw [falling_iff]
      exact sharedEdges_ordered (r := fun a b => lt b a) (t := fun a b => le b a) h trans
        trans_touch down apart
    · rw [getElem_sharedEdges_of_lt h bounds i.isLt]
      exact not_lt_of_lt within.2
    · exact sharedEdges_succ (r := fun a b => lt b a) (t := fun a b => le b a) h trans_touch
        apart within.1

/-! ## Samples in cells -/

/-- Samples in ordered cells make a scale.  Unless they are evenly spaced, in which case the cells
play no part, a position within a cell is looked up to it; if the cells seem to touch, their bounds
must be given in order. -/
theorem find_within (h : 0 < n) (values : Vector α n) (bounds : Vector (α × α) n)
    (ordered : RisingCells bounds ∨ FallingCells bounds) :
    ∃ s : Scale α, ofSamples (.ofVector values) (some (.ofPairs bounds)) none = .ok s ∧
      s.size = n ∧ s.spacing = spacingOf values bounds ∧
      (s.spacing = .regular → ofSamples (.ofVector values) none none = .ok s) ∧
      (s.spacing ≠ .regular → (s.spacing = .contiguousInterval → InOrder bounds) →
        ∀ (i : Fin n) (x : α), Within (bounds.get i) x → s.Finds x i) := by
  have shown := spacing_layoutOf h values bounds (spacingOf values bounds)
  refine ⟨_, ofSamples_cells h values bounds, rfl, shown, fun regular => ?_,
    fun irregular along i x within => ?_⟩
  · rw [spacing, shown] at regular
    rw [ofSamples_even h values (isRegular_of_spacingOf regular), regular]
    rfl
  · rw [spacing, shown] at irregular along
    have finite := isFinite_of_lt_of_lt within.1 within.2
    refine ⟨i, ?_, rfl⟩
    by_cases single : n = 1
    · exact find_of_single finite single _
    cases kind : spacingOf values bounds with
    | regular => exact absurd kind irregular
    | irregularPoint => exact absurd kind (spacingOf_ne_irregularPoint values bounds)
    | contiguousInterval =>
        rw [find_edges finite single rfl]
        exact congrArg Except.ok (findEdge_within h (along kind) within)
    | discontiguousInterval =>
        rw [find_cells finite single rfl]
        exact congrArg Except.ok (findCell_within h ordered within)

end Ordered

/-- Accumulations over six hours, labelled at their ends, the latest first.  Between the first two
lie three hours. -/
def accumulations : Vector (Float × Float) 3 := #v[(21.0, 27.0), (12.0, 18.0), (6.0, 12.0)]

theorem find_within_accumulations :
    FallingCells accumulations ∧
      ∃ s : Scale Float,
        ofSamples (.ofVector #v[27.0, 18.0, 12.0]) (some (.ofPairs accumulations)) none = .ok s ∧
          s.spacing = .discontiguousInterval ∧ s.Finds 12.5 1 := by
  have falling : FallingCells accumulations := by decide +kernel
  have gaps : spacingOf #v[27.0, 18.0, 12.0] accumulations = .discontiguousInterval := by
    decide +kernel
  obtain ⟨s, made, -, kind, -, wins⟩ :=
    find_within (by decide) #v[27.0, 18.0, 12.0] accumulations (.inr falling)
  rw [gaps] at kind
  have found := wins (by rw [kind]; decide) (by rw [kind]; exact nofun) 1 12.5 (by decide +kernel)
  exact ⟨falling, s, made, kind, found⟩

/-! ## Cells that play no part -/

/-- Finite samples in order, in ordered cells that contain them. -/
structure CellsOf {n : Nat} (values : Vector Float n) (bounds : Vector (Float × Float) n) :
    Prop where
  several : 2 ≤ n
  finite (i : Fin n) : isFinite (values.get i)
  ordered : Rising values ∧ RisingCells bounds ∨ Falling values ∧ FallingCells bounds
  contains (i : Fin n) :
    le (lower (bounds.get i)) (values.get i) ∧ le (values.get i) (upper (bounds.get i))

/-- On scales of one kind of spacing every position within a cell is looked up to it. -/
def ContainingCellWins (kind : Spacing) : Prop :=
  ∀ (n : Nat) (values : Vector Float n) (bounds : Vector (Float × Float) n) (s : Scale Float),
    CellsOf values bounds →
    ofSamples (.ofVector values) (some (.ofPairs bounds)) none = .ok s →
    s.spacing = kind → ∀ (i : Fin n) (x : Float), Within (bounds.get i) x → s.Finds x i

/-- Hourly samples that are not in the middle of their hours, and times in seconds whose cells are
given from the earlier to the later bound although the latest comes first. -/
theorem not_containingCellWins :
    ¬ ContainingCellWins .regular ∧ ¬ ContainingCellWins .contiguousInterval := by
  constructor
  · intro wins
    have cells : CellsOf #v[0.75, 1.75, 2.75] #v[(0.0, 1.0), (1.0, 2.0), (2.0, 3.0)] :=
      ⟨by decide, by decide +kernel, by decide +kernel, by decide +kernel⟩
    have made := ofSamples_cells (by decide) #v[0.75, 1.75, 2.75]
      #v[((0.0 : Float), (1.0 : Float)), (1.0, 2.0), (2.0, 3.0)]
    have found := wins 3 _ _ _ cells made (by decide +kernel) 1 1.125 (by decide +kernel)
    exact absurd found (by decide +kernel)
  · intro wins
    have cells : CellsOf #v[1700010800.0, 1700007200.0, 1700000000.0]
        #v[(1700007200.0, 1700010800.0), (1700003600.0, 1700007200.0),
          (1699996400.0, 1700000000.0)] :=
      ⟨by decide, by decide +kernel, by decide +kernel, by decide +kernel⟩
    have made := ofSamples_cells (by decide) #v[1700010800.0, 1700007200.0, 1700000000.0]
      #v[((1700007200.0 : Float), (1700010800.0 : Float)), (1700003600.0, 1700007200.0),
        (1699996400.0, 1700000000.0)]
    have found := wins 3 _ _ _ cells made (by decide +kernel) 1 1700005000.0 (by decide +kernel)
    exact absurd found (by decide +kernel)

end Meteo.Scale
