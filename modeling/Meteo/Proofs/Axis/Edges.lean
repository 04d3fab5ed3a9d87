/-
# Meteo.Proofs.Axis.Edges -- cells that share their edges

Touching cells are looked up by bisecting their edges, cells with gaps by a scan of the
cells.  On the same cells the two agree (`find_apart`): both give the cell that contains
a position, except that a shared edge belongs to the cell that starts there for the one and
to the cell that ends there for the other.

Ahead of the first edge the first cell is nearest, even with rounded distances.  Behind
the last edge the scan compares rounded distances too, but takes the first of several
nearest cells; so far behind that rounding makes distances equal it leaves the last cell,
which the bisection gives.  Exact distances are never equal (`agreesOffEdges`).

The edges rise or fall.  `precedes`, `upTo` and `distance` take the direction as an
argument, and only the lemmas about them look at it.
-/
import Meteo.Proofs.Axis.Cells
import Meteo.Proofs.Number.Differences

namespace Meteo.Scale

set_option autoImplicit false

open Ordinate OrderedOrdinate LinearOrdinate

/-! ## Directions -/

section Directions

variable {α : Type} [Ordinate α]

/-- One position comes before another one. -/
def precedes (falls : Bool) (x y : α) : Bool := if falls then lt y x else lt x y

/-- One position does not lie behind another one. -/
def upTo (falls : Bool) (x y : α) : Bool := if falls then le y x else le x y

/-- How far a position lies ahead. -/
def distance (falls : Bool) (x y : α) : α := if falls then x - y else y - x

/-- Two positions are the same number. -/
def level (x y : α) : Bool := le x y && le y x

theorem upTo_of_level {x y : α} (d : Bool) (h : level x y) : upTo d x y ∧ upTo d y x := by
  rw [level, Bool.and_eq_true] at h
  cases d
  · exact h
  · exact h.symm

variable [RoundedOrdinate α] {d : Bool} {w x y z : α}

theorem upTo_of_precedes (h : precedes d x y) : upTo d x y := by
  cases d <;> exact le_of_lt h

theorem upTo_refl (d : Bool) (number : isNaN x = false) : upTo d x x := by
  cases d <;> exact RoundedOrdinate.le_refl number

theorem not_precedes_of_upTo (h : upTo d x y) : precedes d y x = false := by
  cases d <;> exact not_lt_of_le h

theorem not_upTo_of_precedes (h : precedes d x y) : upTo d y x = false := by
  cases d <;> exact not_le_of_lt h

theorem precedes_of_upTo_of_precedes (h : upTo d x y) (k : precedes d y z) : precedes d x z := by
  cases d
  · exact lt_of_le_of_lt h k
  · exact lt_of_lt_of_le k h

theorem precedes_of_precedes_of_upTo (h : precedes d x y) (k : upTo d y z) : precedes d x z := by
  cases d
  · exact lt_of_lt_of_le h k
  · exact lt_of_le_of_lt k h

theorem upTo_trans (h : upTo d x y) (k : upTo d y z) : upTo d x z := by
  cases d
  · exact le_trans h k
  · exact le_trans k h

theorem precedes_or_level_or_precedes (d : Bool) (numberX : isNaN x = false)
    (numberY : isNaN y = false) : precedes d x y ∨ level x y ∨ precedes d y x := by
  have cases_ : lt x y ∨ level x y ∨ lt y x := by
    rcases RoundedOrdinate.le_or_gt numberX numberY with le_xy | gt
    · rcases RoundedOrdinate.le_or_gt numberY numberX with le_yx | lt
      · exact .inr (.inl (by rw [level, le_xy, le_yx]; rfl))
      · exact .inl lt
    · exact .inr (.inr gt)
  cases d
  · exact cases_
  · rcases cases_ with less | same | greater
    · exact .inr (.inr less)
    · exact .inr (.inl same)
    · exact .inl greater

/-- The distance between inner positions is not greater than that between outer ones. -/
theorem distance_le_distance (finiteW : isFinite w) (finiteX : isFinite x) (finiteY : isFinite y)
    (finiteZ : isFinite z) (first : upTo d w x) (second : upTo d y z) :
    le (distance d x y) (distance d w z) := by
  cases d
  · exact RoundedOrdinate.sub_le_sub finiteY finiteZ finiteW finiteX second first
  · exact RoundedOrdinate.sub_le_sub finiteX finiteW finiteZ finiteY first second

theorem isNaN_distance (finiteX : isFinite x) (finiteY : isFinite y) :
    isNaN (distance d x y) = false := by
  cases d
  · exact RoundedOrdinate.isNaN_sub finiteY finiteX
  · exact RoundedOrdinate.isNaN_sub finiteX finiteY

/-! ## A cell with its bounds in order -/

section Cell

variable {b : α × α} (order : precedes d b.1 b.2)

include order

theorem contains_eq : (le (lower b) x && le x (upper b)) = (upTo d b.1 x && upTo d x b.2) := by
  cases d
  · rw [lower_of_lt order, upper_of_lt order]
    rfl
  · rw [lower_of_gt order, upper_of_gt order, Bool.and_comm]
    rfl

theorem gap_of_ahead (ahead : precedes d x b.1) : gap b x = distance d x b.1 := by
  cases d
  · have below : lt x b.1 := ahead
    rw [gap, lower_of_lt order, if_pos below]
    rfl
  · have above : lt x b.2 = false := not_lt_of_lt (lt_trans order ahead)
    rw [gap, lower_of_gt order, above, upper_of_gt order]
    rfl

theorem gap_of_behind (behind : precedes d b.2 x) : gap b x = distance d b.2 x := by
  cases d
  · have above : lt x b.1 = false := not_lt_of_lt (lt_trans order behind)
    rw [gap, lower_of_lt order, above, upper_of_lt order]
    rfl
  · have below : lt x b.2 := behind
    rw [gap, lower_of_gt order, if_pos below]
    rfl

end Cell

end Directions

/-! ## Edges in order -/

section Edges

variable {α : Type} [Ordinate α] {n : Nat}

/-- The cells between neighbouring edges. -/
def between (edges : Vector α (n + 1)) : Vector (α × α) n :=
  .ofFn fun i => (edges.get i.castSucc, edges.get i.succ)

omit [Ordinate α] in
theorem get_between (edges : Vector α (n + 1)) (i : Fin n) :
    (between edges).get i = (edges.get i.castSucc, edges.get i.succ) := by
  rw [Vector.get_eq_getElem, between, Vector.getElem_ofFn]

/-- The cell that a position belongs to: the one at whose first edge it lies or between whose edges
it lies, the first one ahead of all edges, and the last one from the last edge on. -/
inductive Owns (edges : Vector α (n + 1)) (x : α) (k : Fin n) : Prop
  | starts (same : level x (edges.get k.castSucc))
  | inside (started : precedes (isFalling edges) (edges.get k.castSucc) x)
      (ends : precedes (isFalling edges) x (edges.get k.succ))
  | ahead (first : k.val = 0) (outside : precedes (isFalling edges) x (edges.get 0))
  | ends (last : k.val + 1 = n) (same : level x (edges.get (Fin.last n)))
  | behind (last : k.val + 1 = n) (outside : precedes (isFalling edges) (edges.get (Fin.last n)) x)

/-- A position at an edge that two cells share, of which this one starts there. -/
def Shares (edges : Vector α (n + 1)) (x : α) (k : Fin n) : Prop :=
  k.val ≠ 0 ∧ level x (edges.get k.castSucc)

/-- What no cell contains is looked up to the nearest cell. -/
theorem findCell_of_outside (h : 0 < n) {cells : Vector (α × α) n} {x : α}
    (outside : ∀ i, (le (lower (cells.get i)) x && le x (upper (cells.get i))) = false) :
    findCell h cells x = least h fun i => gap (cells.get i) x := by
  have none : (List.finRange n).find? (fun i => le (lower cells[i]) x && le x (upper cells[i])) =
      none := by
    rw [List.find?_eq_none]
    intro i _
    exact Bool.eq_false_iff.1 (outside i)
  rw [findCell, none]
  rfl

instance (edges : Vector α (n + 1)) (x : α) (k : Fin n) : Decidable (Shares edges x k) :=
  inferInstanceAs (Decidable (_ ∧ _))

variable [RoundedOrdinate α] {edges : Vector α (n + 1)} {x : α}

/-- Every position belongs to a cell. -/
theorem exists_owns (h : 0 < n) (numbers : ∀ i, isNaN (edges.get i) = false)
    (number : isNaN x = false) : ∃ k, Owns edges x k := by
  have compare (i : Fin (n + 1)) :=
    precedes_or_level_or_precedes (isFalling edges) number (numbers i)
  -- edge by edge: either a cell has been found, or the edge has been reached
  have reached (m : Nat) (hm : m < n + 1) : (∃ k, Owns edges x k) ∨
      level x (edges.get ⟨m, hm⟩) ∨ precedes (isFalling edges) (edges.get ⟨m, hm⟩) x := by
    induction m with
    | zero =>
        rcases compare ⟨0, hm⟩ with ahead | same | started
        · exact .inl ⟨⟨0, h⟩, .ahead rfl ahead⟩
        · exact .inr (.inl same)
        · exact .inr (.inr started)
    | succ m ih =>
        rcases ih (by omega) with found | same | started
        · exact .inl found
        · exact .inl ⟨⟨m, by omega⟩, .starts same⟩
        · rcases compare ⟨m + 1, hm⟩ with ends | same | passed
          · exact .inl ⟨⟨m, by omega⟩, .inside started ends⟩
          · exact .inr (.inl same)
          · exact .inr (.inr passed)
  rcases reached n (by omega) with found | same | passed
  · exact found
  · exact ⟨⟨n - 1, by omega⟩, .ends (Nat.sub_add_cancel h) same⟩
  · exact ⟨⟨n - 1, by omega⟩, .behind (Nat.sub_add_cancel h) passed⟩

section Ordered

variable (h : 0 < n) (ordered : Rising edges ∨ Falling edges)

include h ordered

theorem precedes_of_ordered {i j : Fin (n + 1)} (earlier : i < j) :
    precedes (isFalling edges) (edges.get i) (edges.get j) := by
  rcases ordered with rising | falling
  · rw [rising.isFalling_eq h]
    exact rising_iff.1 rising i j earlier
  · rw [falling.isFalling_eq h]
    exact falling_iff.1 falling i j earlier

theorem upTo_of_ordered (numbers : ∀ i, isNaN (edges.get i) = false) {i j : Fin (n + 1)}
    (le : i ≤ j) : upTo (isFalling edges) (edges.get i) (edges.get j) := by
  rcases lt_or_eq_of_le le with earlier | rfl
  · exact upTo_of_precedes (precedes_of_ordered h ordered earlier)
  · exact upTo_refl _ (numbers i)

/-! ## The bisection -/

/-- The bisection finds the number of edges that have been reached, and the cell that the last of
these starts. -/
theorem findEdge_eq_clamp {c : Nat} (upTo : c ≤ n + 1)
    (reached : ∀ i : Fin (n + 1), i.val < c → precedes (isFalling edges) x (edges.get i) = false)
    (beyond : ∀ i : Fin (n + 1), c ≤ i.val → precedes (isFalling edges) x (edges.get i)) :
    findEdge h edges x = clamp h ((c : Int) - 1) := by
  rcases ordered with rising | falling
  · have ascending := rising.isFalling_eq h
    rw [ascending] at reached beyond
    have count : edgesUpTo edges x = c := edgesUpTo_eq rising (by omega) upTo
      (fun i hi => reached ⟨i, hi⟩) (fun i hi => beyond ⟨i, hi⟩)
    rw [findEdge, ascending, if_neg (by decide), count]
  · have descending := falling.isFalling_eq h
    rw [descending] at reached beyond
    have count : edgesUpTo (edges.map (- ·)) (-x) = c := by
      refine edgesUpTo_eq falling.rising_neg (by omega) upTo (fun i hi before => ?_)
        (fun i hi after => ?_)
      · rw [Vector.getElem_map, lt_neg_neg]
        exact reached ⟨i, hi⟩ before
      · rw [Vector.getElem_map, lt_neg_neg]
        exact beyond ⟨i, hi⟩ after
    rw [findEdge, if_pos descending, count]

/-- The bisection finds the cell that a position belongs to. -/
theorem findEdge_of_owns (numbers : ∀ i, isNaN (edges.get i) = false) {k : Fin n}
    (owns : Owns edges x k) : findEdge h edges x = k := by
  have inOrder {i j : Fin (n + 1)} (le : i ≤ j) := upTo_of_ordered h ordered numbers le
  have onward {c : Fin (n + 1)} (ahead : precedes (isFalling edges) x (edges.get c))
      (i : Fin (n + 1)) (le : c.val ≤ i.val) : precedes (isFalling edges) x (edges.get i) :=
    precedes_of_precedes_of_upTo ahead (inOrder le)
  have backward {c : Fin (n + 1)} (behind : upTo (isFalling edges) (edges.get c) x)
      (i : Fin (n + 1)) (le : i.val ≤ c.val) : precedes (isFalling edges) x (edges.get i) = false :=
    not_precedes_of_upTo (upTo_trans (inOrder le) behind)
  have small := k.isLt
  have within (started : upTo (isFalling edges) (edges.get k.castSucc) x)
      (ends : precedes (isFalling edges) x (edges.get k.succ)) : findEdge h edges x = k := by
    rw [findEdge_eq_clamp h ordered (c := k.val + 1) (by omega)
      (fun i hi => backward started i (Nat.le_of_lt_succ hi)) (onward ends), clamp_eq_iff]
    omega
  have after (last : k.val + 1 = n) (ended : upTo (isFalling edges) (edges.get (Fin.last n)) x) :
      findEdge h edges x = k := by
    rw [findEdge_eq_clamp h ordered (c := n + 1) le_rfl
      (fun i hi => backward ended i (Nat.le_of_lt_succ hi)) (fun i hi => by omega), clamp_eq_iff]
    omega
  cases owns with
  | starts same =>
      obtain ⟨back, forth⟩ := upTo_of_level (isFalling edges) same
      exact within forth
        (precedes_of_upTo_of_precedes back (precedes_of_ordered h ordered k.castSucc_lt_succ))
  | inside started ends => exact within (upTo_of_precedes started) ends
  | ahead first outside =>
      rw [findEdge_eq_clamp h ordered (c := 0) (by omega) (fun i hi => absurd hi (by omega))
        (onward outside), clamp_eq_iff]
      omega
  | ends last same => exact after last (upTo_of_level _ same).2
  | behind last outside => exact after last (upTo_of_precedes outside)

/-! ## The scan -/

/-- What contains a position between two neighbouring edges. -/
theorem contains_between (k : Fin n) :
    (le (lower ((between edges).get k)) x && le x (upper ((between edges).get k))) =
      (upTo (isFalling edges) (edges.get k.castSucc) x &&
        upTo (isFalling edges) x (edges.get k.succ)) := by
  rw [get_between, contains_eq (precedes_of_ordered h ordered k.castSucc_lt_succ)]

/-- The scan finds the first cell that contains a position. -/
theorem findCell_between {k : Fin n} (started : upTo (isFalling edges) (edges.get k.castSucc) x)
    (ended : upTo (isFalling edges) x (edges.get k.succ))
    (passed : ∀ j, j < k → precedes (isFalling edges) (edges.get j.succ) x) :
    findCell h (between edges) x = k := by
  apply findCell_eq
  · rw [contains_between h ordered, started, ended]
    rfl
  · intro j earlier
    rw [contains_between h ordered, not_upTo_of_precedes (passed j earlier), Bool.and_false]

/-- A position at an edge is found in the cell that ends there. -/
theorem findCell_between_of_level {k : Fin n} (same : level x (edges.get k.succ)) :
    findCell h (between edges) x = k := by
  obtain ⟨forth, back⟩ := upTo_of_level (isFalling edges) same
  have cell := precedes_of_ordered h ordered k.castSucc_lt_succ
  have started := upTo_of_precedes (precedes_of_precedes_of_upTo cell back)
  refine findCell_between h ordered started forth fun j earlier => ?_
  have edge := precedes_of_ordered h ordered (Fin.succ_lt_succ_iff.2 earlier)
  exact precedes_of_precedes_of_upTo edge back

/-- Ahead of all edges the first cell is nearest. -/
theorem findCell_ahead (finite : ∀ i, isFinite (edges.get i)) (finiteX : isFinite x) {k : Fin n}
    (first : k.val = 0) (outside : precedes (isFalling edges) x (edges.get 0)) :
    findCell h (between edges) x = k := by
  have numbers (i : Fin (n + 1)) := RoundedOrdinate.isNaN_of_isFinite (finite i)
  have numberX := RoundedOrdinate.isNaN_of_isFinite finiteX
  have ahead (j : Fin n) : precedes (isFalling edges) x (edges.get j.castSucc) :=
    precedes_of_precedes_of_upTo outside (upTo_of_ordered h ordered numbers (Fin.zero_le _))
  have away (j : Fin n) : gap ((between edges).get j) x =
      distance (isFalling edges) x (edges.get j.castSucc) := by
    rw [get_between]
    exact gap_of_ahead (precedes_of_ordered h ordered j.castSucc_lt_succ) (ahead j)
  rw [findCell_of_outside h fun j => by
    rw [contains_between h ordered, not_upTo_of_precedes (ahead j), Bool.false_and]]
  refine least_eq_of_first h (fun j => ?_) (fun j => ?_) fun j earlier => by omega
  · rw [away]
    exact isNaN_distance finiteX (finite _)
  · rw [away, away]
    refine distance_le_distance finiteX finiteX (finite _) (finite _) (upTo_refl _ numberX)
      (upTo_of_ordered h ordered numbers ?_)
    rw [Fin.le_def, Fin.val_castSucc, first]
    exact Nat.zero_le _

/-- Behind all edges, a cell is as far away as its second edge. -/
theorem gap_between_of_behind (numbers : ∀ i, isNaN (edges.get i) = false)
    (outside : precedes (isFalling edges) (edges.get (Fin.last n)) x) (j : Fin n) :
    precedes (isFalling edges) (edges.get j.succ) x ∧
      gap ((between edges).get j) x = distance (isFalling edges) (edges.get j.succ) x := by
  have behind : precedes (isFalling edges) (edges.get j.succ) x :=
    precedes_of_upTo_of_precedes (upTo_of_ordered h ordered numbers (Fin.le_last _)) outside
  rw [get_between]
  exact ⟨behind, gap_of_behind (precedes_of_ordered h ordered j.castSucc_lt_succ) behind⟩

/-- Behind all edges the first of the cells is found that are as near as the last one. -/
theorem lt_findCell_behind_iff (finite : ∀ i, isFinite (edges.get i)) (finiteX : isFinite x)
    (outside : precedes (isFalling edges) (edges.get (Fin.last n)) x) {l : Fin n}
    (last : l.val + 1 = n) (k : Fin n) :
    k < findCell h (between edges) x ↔
      lt (gap ((between edges).get l) x) (gap ((between edges).get k) x) := by
  have numbers (i : Fin (n + 1)) := RoundedOrdinate.isNaN_of_isFinite (finite i)
  have numberX := RoundedOrdinate.isNaN_of_isFinite finiteX
  have behind (j : Fin n) := (gap_between_of_behind h ordered numbers outside j).1
  have away (j : Fin n) := (gap_between_of_behind h ordered numbers outside j).2
  have falling {i j : Fin n} (before : i ≤ j) :
      le (gap ((between edges).get j) x) (gap ((between edges).get i) x) := by
    rw [away, away]
    exact distance_le_distance (finite _) (finite _) finiteX finiteX
      (upTo_of_ordered h ordered numbers (Fin.succ_le_succ_iff.2 before)) (upTo_refl _ numberX)
  rw [findCell_of_outside h fun j => by
    rw [contains_between h ordered, not_upTo_of_precedes (behind j), Bool.and_false]]
  have distances (j : Fin n) : isNaN (gap ((between edges).get j) x) = false := by
    rw [away]
    exact isNaN_distance (finite _) finiteX
  obtain ⟨least, first⟩ := least_spec h distances
  constructor
  · intro earlier
    refine lt_of_le_of_lt (falling ?_) (first k earlier)
    omega
  · intro farther
    by_contra later
    have near := le_trans (falling (not_lt.1 later)) (least l)
    rw [not_le_of_lt farther] at near
    cases near

/-- Not behind the last edge, the scan finds the cell that a position belongs to, unless that
starts there. -/
theorem findCell_of_owns (finite : ∀ i, isFinite (edges.get i)) (finiteX : isFinite x)
    {k : Fin n} (owns : Owns edges x k) (unshared : ∀ k, ¬ Shares edges x k)
    (inside : precedes (isFalling edges) (edges.get (Fin.last n)) x = false) :
    findCell h (between edges) x = k := by
  have numbers (i : Fin (n + 1)) := RoundedOrdinate.isNaN_of_isFinite (finite i)
  cases owns with
  | starts same =>
      have first : k.val = 0 := by
        by_contra later
        exact unshared k ⟨later, same⟩
      obtain ⟨back, forth⟩ := upTo_of_level (isFalling edges) same
      have cell := precedes_of_ordered h ordered k.castSucc_lt_succ
      exact findCell_between h ordered forth
        (upTo_of_precedes (precedes_of_upTo_of_precedes back cell)) fun j earlier => by omega
  | inside started ends =>
      refine findCell_between h ordered (upTo_of_precedes started) (upTo_of_precedes ends)
        fun j earlier => ?_
      exact precedes_of_upTo_of_precedes
        (upTo_of_ordered h ordered numbers (Fin.succ_le_castSucc_iff.2 earlier)) started
  | ahead first outside => exact findCell_ahead h ordered finite finiteX first outside
  | ends last same =>
      have end_ : Fin.last n = k.succ := Fin.ext last.symm
      exact findCell_between_of_level h ordered (end_ ▸ same)
  | behind last outside =>
      rw [outside] at inside
      cases inside

end Ordered

end Edges

/-! ## Both searches -/

section Find

variable {α : Type} [Ordinate α]

/-- The same samples, with their cells one by one. -/
def apart (s : Scale α) (edges : Vector α (s.size + 1)) : Scale α :=
  { s with layout := .cells (between edges) }

/-- Among at least two cells that share their finite edges, bisecting the edges finds the cell that
a position belongs to.  So does a scan of the cells, except at a shared edge, where it finds the
cell that ends there, and behind the last edge, where it finds the first of the cells whose distance
is not greater than that of the last one. -/
theorem find_apart [RoundedOrdinate α] (s : Scale α) {edges : Vector α (s.size + 1)}
    (several : 2 ≤ s.size) (layout : s.layout = .edges edges)
    (ordered : Rising edges ∨ Falling edges) (finite : ∀ i, isFinite (edges.get i)) {x : α}
    (finiteX : isFinite x) :
    ∃ i j : Fin s.size, s.find x = .ok i ∧ (s.apart edges).find x = .ok j ∧
      (∀ k, Owns edges x k ↔ k = i) ∧
      (∀ k, Shares edges x k → k = i ∧ j.val + 1 = k.val) ∧
      ((∀ k, ¬ Shares edges x k) →
        precedes (isFalling edges) (edges.get (Fin.last s.size)) x = false → j = i) ∧
      (precedes (isFalling edges) (edges.get (Fin.last s.size)) x → i.val + 1 = s.size ∧
        ∀ k, k < j ↔ lt (gap ((between edges).get i) x) (gap ((between edges).get k) x)) := by
  have numbers (i : Fin (s.size + 1)) := RoundedOrdinate.isNaN_of_isFinite (finite i)
  have numberX := RoundedOrdinate.isNaN_of_isFinite finiteX
  have unique {k : Fin s.size} (owns : Owns edges x k) :=
    findEdge_of_owns s.size_pos ordered numbers owns
  obtain ⟨i, owner⟩ := exists_owns s.size_pos numbers numberX
  have found : findEdge s.size_pos edges x = i := unique owner
  refine ⟨i, findCell s.size_pos (between edges) x, ?_, ?_, fun k => ?_, fun k shares => ?_, ?_, ?_⟩
  · rw [find_edges finiteX (by omega) layout, found]
  · exact find_cells (s := s.apart edges) finiteX (by change s.size ≠ 1; omega) rfl
  · constructor
    · intro owns
      rw [← found, unique owns]
    · rintro rfl
      exact owner
  · obtain ⟨later, same⟩ := shares
    have ended : findCell s.size_pos (between edges) x = ⟨k.val - 1, by omega⟩ := by
      refine findCell_between_of_level s.size_pos ordered ?_
      rwa [show Fin.succ ⟨k.val - 1, _⟩ = k.castSucc from Fin.ext (Nat.sub_add_cancel (by omega))]
    rw [ended]
    exact ⟨(unique (.starts same)).symm.trans found, Nat.sub_add_cancel (by omega)⟩
  · exact fun unshared inside =>
      findCell_of_owns s.size_pos ordered finite finiteX owner unshared inside
  · intro outside
    have last : i.val + 1 = s.size := by
      have final : Owns edges x ⟨s.size - 1, by omega⟩ :=
        .behind (Nat.sub_add_cancel s.size_pos) outside
      rw [← found, unique final]
      exact Nat.sub_add_cancel s.size_pos
    exact ⟨last, lt_findCell_behind_iff s.size_pos ordered finite finiteX outside last⟩

/-- The edges of two cells. -/
def unitEdges : Vector Float 3 := #v[0.0, 1.0, 2.0]

/-- The two cells around 0.5 and 1.5. -/
def halfway : Scale Float := ⟨2, Nat.zero_lt_two, 0.5, 1.5, .edges unitEdges⟩

/-- At the edge that they share. -/
theorem find_apart_halfway :
    Shares unitEdges 1.0 1 ∧ ∃ i j : Fin halfway.size, halfway.find 1.0 = .ok i ∧
      (halfway.apart unitEdges).find 1.0 = .ok j ∧ Owns unitEdges 1.0 i ∧ i.val = 1 ∧
      j.val = 0 := by
  have rising : Rising unitEdges := by decide +kernel
  have shares : Shares unitEdges 1.0 1 := by decide +kernel
  obtain ⟨i, j, bisected, scanned, owns, shared, -⟩ :=
    find_apart halfway (by decide) rfl (.inl rising) (by decide +kernel) (x := 1.0)
      (by decide +kernel)
  obtain ⟨starts, ends⟩ := shared ⟨1, by decide⟩ shares
  refine ⟨shares, i, j, bisected, scanned, (owns i).2 rfl, ?_, Nat.succ.inj ends⟩
  rw [← starts]

/-- The searches agree about every position that is not at a shared edge. -/
def AgreesOffEdges (α : Type) [Ordinate α] : Prop :=
  ∀ (s : Scale α) (edges : Vector α (s.size + 1)) (x : α), 2 ≤ s.size → s.layout = .edges edges →
    (Rising edges ∨ Falling edges) → (∀ i, isFinite (edges.get i)) → isFinite x →
    (∀ k, ¬ Shares edges x k) → (s.apart edges).find x = s.find x

theorem distance_lt_distance {d : Bool} {w x y : ℚ} (h : precedes d w x) :
    lt (distance d x y) (distance d w y) := by
  cases d <;> simpa [precedes, distance] using h

/-- Exact distances to different edges differ. -/
theorem agreesOffEdges : AgreesOffEdges ℚ := by
  intro s edges x several layout ordered finite finiteX unshared
  obtain ⟨i, j, bisected, scanned, -, -, inside, behind⟩ :=
    find_apart s several layout ordered finite finiteX
  rw [bisected, scanned]
  congr 1
  cases outside : precedes (isFalling edges) (edges.get (Fin.last s.size)) x with
  | false => exact inside unshared outside
  | true =>
      obtain ⟨last, nearest⟩ := behind outside
      by_contra other
      have away (k : Fin s.size) :=
        (gap_between_of_behind s.size_pos ordered (fun _ => rfl) outside k).2
      have farther : lt (gap ((between edges).get i) x) (gap ((between edges).get j) x) := by
        rw [away, away]
        exact distance_lt_distance
          (precedes_of_ordered s.size_pos ordered (Fin.succ_lt_succ_iff.2 (by omega)))
      exact absurd ((nearest j).2 farther) (lt_irrefl j)

/-- So far behind two cells that both are equally far. -/
theorem not_agreesOffEdges : ¬ AgreesOffEdges Float := by
  intro agrees
  have rising : Rising unitEdges := by decide +kernel
  have unshared : ∀ k, ¬ Shares unitEdges 1e17 k := by decide +kernel
  have bisected : halfway.find 1e17 = .ok ⟨1, by decide⟩ := by decide +kernel
  have scanned : (halfway.apart unitEdges).find 1e17 = .ok ⟨0, by decide⟩ := by
    decide +kernel
  have same := agrees halfway unitEdges 1e17 (by decide) rfl (.inl rising)
    (by decide +kernel) (by decide +kernel) unshared
  rw [bisected, scanned] at same
  cases same

end Find

end Meteo.Scale
