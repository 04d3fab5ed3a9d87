/-
# Meteo.Proofs.Axis.Midpoints -- the cells around points

Points have no cells of their own.  `coordEdges?` puts edges halfway between neighbours, and
a lookup finds the nearest point without looking at any edge.  Over exact fractions the two
describe the same cells, whether the points are stored or evenly spaced and whether they rise
or fall (`find_iff_surrounds`): the point that is found is the one in whose cell a position
lies, where a cell ends with its second edge and the outer cells take what lies beyond them.

Of two points the first is as near as the second up to the middle between them
(`nearer_iff`), and the middle lies farther on for a second point that is farther away
(`upTo_middle_middle`).  So a point and its neighbours decide (`findPoint_iff`).  As in
`Meteo.Proofs.Axis.Edges` the direction is an argument, and only the lemmas about two or three
positions look at it.
-/
import Meteo.Proofs.Axis.Edges
import Meteo.Proofs.Axis.Nearest

namespace Meteo.Scale

set_option autoImplicit false

open Ordinate OrderedOrdinate LinearOrdinate

/-! ## Two points and their middle -/

section Two

variable {d : Bool} {a b c p x y : ℚ}

theorem precedes_rising : precedes false x y ↔ x < y := by simp [precedes]

theorem precedes_falling : precedes true x y ↔ y < x := by simp [precedes]

theorem upTo_rising : upTo false x y ↔ x ≤ y := by simp [upTo]

theorem upTo_falling : upTo true x y ↔ y ≤ x := by simp [upTo]

theorem not_upTo_iff : ¬ upTo d x y ↔ precedes d y x := by
  cases d with
  | false => rw [upTo_rising, precedes_rising, not_le]
  | true => rw [upTo_falling, precedes_falling, not_le]

/-- The first of two points is as near as the second one up to the middle between them. -/
theorem nearer_iff (order : precedes d a b) : |a - p| ≤ |b - p| ↔ upTo d p (middle a b) := by
  cases d with
  | false =>
      rw [precedes_rising] at order
      rw [abs_sub_le_abs_sub_iff order, upTo_rising, middle_eq, le_div_iff₀ two_pos, mul_comm]
  | true =>
      rw [precedes_falling] at order
      rw [← outside_point, ← outside_point, outside_le_outside_iff' (below_of_lt order), lower_eq,
        upper_eq, min_self, max_self, upTo_falling, middle_eq, div_le_iff₀ two_pos, mul_comm,
        add_comm]

/-- The middle between two points lies between them. -/
theorem precedes_middle (order : precedes d a b) :
    precedes d a (middle a b) ∧ precedes d (middle a b) b := by
  rw [middle_eq]
  cases d with
  | false =>
      rw [precedes_rising] at order
      rw [precedes_rising, precedes_rising]
      constructor <;> linarith
  | true =>
      rw [precedes_falling] at order
      rw [precedes_falling, precedes_falling]
      constructor <;> linarith

/-- As far ahead of a point as the middle between it and the next one lies behind it. -/
theorem precedes_of_before (order : precedes d a b) : precedes d (a - (middle a b - a)) a := by
  rw [middle_eq]
  cases d with
  | false =>
      rw [precedes_rising] at order
      rw [precedes_rising]
      linarith
  | true =>
      rw [precedes_falling] at order
      rw [precedes_falling]
      linarith

/-- As far behind a point as the middle between it and the one before lies ahead of it. -/
theorem precedes_of_behind (order : precedes d a b) : precedes d b (b + (b - middle a b)) := by
  rw [middle_eq]
  cases d with
  | false =>
      rw [precedes_rising] at order
      rw [precedes_rising]
      linarith
  | true =>
      rw [precedes_falling] at order
      rw [precedes_falling]
      linarith

/-- The middle moves with either of the two points. -/
theorem upTo_middle_middle (first : upTo d a b) (second : upTo d x y) :
    upTo d (middle a x) (middle b y) := by
  rw [middle_eq, middle_eq]
  cases d with
  | false =>
      rw [upTo_rising] at first second
      rw [upTo_rising]
      linarith
  | true =>
      rw [upTo_falling] at first second
      rw [upTo_falling]
      linarith

end Two

/-! ## Points in order and the edges around them -/

section Points

variable {n : Nat} {d : Bool} {values : Vector ℚ n} {x : ℚ}

/-- The positions follow one another in a direction. -/
def Proceeds (falls : Bool) (values : Vector ℚ n) : Prop :=
  ∀ i j : Fin n, i < j → precedes falls (values.get i) (values.get j)

instance (falls : Bool) (values : Vector ℚ n) : Decidable (Proceeds falls values) :=
  inferInstanceAs (Decidable (∀ i j : Fin n, i < j → _))

theorem Proceeds.upTo (ordered : Proceeds d values) {i j : Fin n} (le : i ≤ j) :
    upTo d (values.get i) (values.get j) := by
  rcases lt_or_eq_of_le le with before | rfl
  · exact upTo_of_precedes (ordered i j before)
  · exact upTo_refl d rfl

/-- A position lies in the cell of a point: behind its first edge and not behind its second one, or
beyond the outer edges on the side of the point. -/
inductive Surrounds (falls : Bool) (edges : Vector ℚ (n + 1)) (x : ℚ) (i : Fin n) : Prop
  | inside (started : precedes falls (edges.get i.castSucc) x)
      (within : upTo falls x (edges.get i.succ))
  | ahead (first : i.val = 0) (outside : upTo falls x (edges.get 0))
  | behind (last : i.val + 1 = n) (outside : precedes falls (edges.get (Fin.last n)) x)

section Edges

variable (h : 0 < n)

omit h in
theorem exists_next {i : Fin n} (inner : i.val + 1 ≠ n) : ∃ j : Fin n, i.val + 1 = j.val :=
  ⟨⟨i.val + 1, by omega⟩, rfl⟩

omit h in
theorem exists_before {i : Fin n} (later : i.val ≠ 0) : ∃ j : Fin n, j.val + 1 = i.val :=
  ⟨⟨i.val - 1, by omega⟩, Nat.sub_add_cancel (by omega)⟩

/-- Between two neighbours there is the middle. -/
theorem get_edgesAround {i j : Fin n} (next : i.val + 1 = j.val) :
    (edgesAround h values).get i.succ = middle (values.get i) (values.get j) := by
  obtain ⟨k, _⟩ := i
  obtain ⟨_, _⟩ := j
  dsimp only at next
  subst next
  change (edgesAround h values)[k + 1] = _
  rw [edgesAround, Vector.getElem_ofFn, dif_neg (show ¬ n = 1 by omega),
    dif_neg (Nat.succ_ne_zero k), dif_neg (show ¬ k + 1 = n by omega)]
  rfl

theorem get_edgesAround_zero {i j : Fin n} (first : i.val = 0) (next : i.val + 1 = j.val) :
    (edgesAround h values).get 0 =
      values.get i - (middle (values.get i) (values.get j) - values.get i) := by
  obtain ⟨_, _⟩ := i
  obtain ⟨_, _⟩ := j
  dsimp only at first next
  subst first
  subst next
  change (edgesAround h values)[0] = _
  rw [edgesAround, Vector.getElem_ofFn, dif_neg (by omega), dif_pos rfl]
  rfl

theorem get_edgesAround_last {i j : Fin n} (next : i.val + 1 = j.val) (last : j.val + 1 = n) :
    (edgesAround h values).get (Fin.last n) =
      values.get j + (values.get j - middle (values.get i) (values.get j)) := by
  obtain ⟨_, _⟩ := i
  obtain ⟨_, _⟩ := j
  dsimp only at next last
  have second : n - 1 = _ := Nat.sub_eq_of_eq_add last.symm
  have first : n - 2 = _ := Nat.sub_eq_of_eq_add (next ▸ last).symm
  change (edgesAround h values)[n] = _
  rw [edgesAround, Vector.getElem_ofFn, dif_neg (show ¬ n = 1 by omega),
    dif_neg (show ¬ n = 0 by omega), dif_pos rfl]
  simp only [first, second]
  rfl

variable (ordered : Proceeds d values)

include ordered

/-- A point is nearest to a position if its edges enclose it, or its neighbours are missing. -/
theorem findPoint_iff (i : Fin n) : findPoint h values x = i ↔
    (i.val = 0 ∨ precedes d ((edgesAround h values).get i.castSucc) x) ∧
      (i.val + 1 = n ∨ upTo d x ((edgesAround h values).get i.succ)) := by
  have small := i.isLt
  have found : findPoint h values x = i ↔
      (∀ j, |values.get i - x| ≤ |values.get j - x|) ∧
        ∀ j, j < i → |values.get i - x| < |values.get j - x| := by
    rw [findPoint, least_eq_iff]
    simp only [Fraction.abs_eq]
    rfl
  have earlier {j : Fin n} (before : j < i) : |values.get i - x| < |values.get j - x| ↔
      precedes d (middle (values.get j) (values.get i)) x := by
    rw [← not_le, nearer_iff (ordered j i before), not_upTo_iff]
  rw [found]
  constructor
  · rintro ⟨least, first⟩
    constructor
    · refine or_iff_not_imp_left.2 fun later => ?_
      obtain ⟨j, next⟩ := exists_before later
      have before : j < i := by omega
      rw [show i.castSucc = j.succ from Fin.ext next.symm, get_edgesAround h next]
      exact (earlier before).1 (first j before)
    · refine or_iff_not_imp_left.2 fun inner => ?_
      obtain ⟨j, next⟩ := exists_next inner
      rw [get_edgesAround h next, ← nearer_iff (ordered i j (by omega))]
      exact least j
  · rintro ⟨behind, before⟩
    have first (j : Fin n) (less : j < i) : |values.get i - x| < |values.get j - x| := by
      obtain ⟨k, next⟩ := exists_before (show i.val ≠ 0 by omega)
      have passed := behind.resolve_left (by omega)
      rw [show i.castSucc = k.succ from Fin.ext next.symm, get_edgesAround h next] at passed
      have nearer := upTo_middle_middle (ordered.upTo (show j ≤ k by omega))
        (upTo_refl d (x := values.get i) rfl)
      exact (earlier less).2 (precedes_of_upTo_of_precedes nearer passed)
    refine ⟨fun j => ?_, first⟩
    rcases lt_trichotomy j i with less | same | greater
    · exact (first j less).le
    · rw [same]
    · obtain ⟨k, next⟩ := exists_next (show i.val + 1 ≠ n by omega)
      have reached := before.resolve_left (by omega)
      rw [get_edgesAround h next] at reached
      have farther := upTo_middle_middle (upTo_refl d (x := values.get i) rfl)
        (ordered.upTo (show k ≤ j by omega))
      rw [nearer_iff (ordered i j greater)]
      exact upTo_trans reached farther

variable (several : 2 ≤ n)

include several

/-- Every point lies between its two edges. -/
theorem precedes_edges (i : Fin n) :
    precedes d ((edgesAround h values).get i.castSucc) (values.get i) ∧
      precedes d (values.get i) ((edgesAround h values).get i.succ) := by
  constructor
  · by_cases first : i.val = 0
    · obtain ⟨j, next⟩ := exists_next (show i.val + 1 ≠ n by omega)
      rw [show i.castSucc = 0 from Fin.ext first, get_edgesAround_zero h first next]
      exact precedes_of_before (ordered i j (by omega))
    · obtain ⟨j, next⟩ := exists_before first
      rw [show i.castSucc = j.succ from Fin.ext next.symm, get_edgesAround h next]
      exact (precedes_middle (ordered j i (by omega))).2
  · by_cases last : i.val + 1 = n
    · obtain ⟨j, next⟩ := exists_before (show i.val ≠ 0 by omega)
      rw [show i.succ = Fin.last n from Fin.ext last, get_edgesAround_last h next last]
      exact precedes_of_behind (ordered j i (by omega))
    · obtain ⟨j, next⟩ := exists_next last
      rw [get_edgesAround h next]
      exact (precedes_middle (ordered i j (by omega))).1

/-- The edges follow one another as the points do. -/
theorem proceeds_edgesAround : Proceeds d (edgesAround h values) := by
  intro i j before
  refine rel_of_lt (r := fun i j => precedes d ((edgesAround h values).get i) _)
    (fun first second => precedes_of_precedes_of_upTo first (upTo_of_precedes second))
    (fun i j next => ?_) before
  obtain ⟨start, stop⟩ := precedes_edges h ordered several ⟨i.val, by omega⟩
  have second : j = Fin.succ ⟨i.val, by omega⟩ := Fin.ext next.symm
  rw [second]
  exact precedes_of_precedes_of_upTo start (upTo_of_precedes stop)

/-- The nearest point is the one in whose cell a position lies. -/
theorem surrounds_iff (i : Fin n) :
    Surrounds d (edgesAround h values) x i ↔ findPoint h values x = i := by
  have edges := proceeds_edgesAround h ordered several
  rw [findPoint_iff h ordered]
  constructor
  · rintro (⟨started, within⟩ | ⟨first, outside⟩ | ⟨last, outside⟩)
    · exact ⟨.inr started, .inr within⟩
    · exact ⟨.inl first, .inr (upTo_trans outside (edges.upTo (Fin.zero_le _)))⟩
    · exact ⟨.inr (precedes_of_upTo_of_precedes (edges.upTo (Fin.le_last _)) outside), .inl last⟩
  · rintro ⟨behind, before⟩
    by_cases ahead : upTo d x ((edgesAround h values).get i.castSucc)
    · have first : i.val = 0 := by
        refine behind.resolve_right fun started => ?_
        exact not_upTo_iff.2 started ahead
      exact .ahead first ((show i.castSucc = 0 from Fin.ext first) ▸ ahead)
    · by_cases within : upTo d x ((edgesAround h values).get i.succ)
      · exact .inside (not_upTo_iff.1 ahead) within
      · have last := before.resolve_right within
        exact .behind last ((show i.succ = Fin.last n from Fin.ext last) ▸ not_upTo_iff.1 within)

end Edges

end Points

/-! ## Scales of points -/

section Find

variable {s : Scale ℚ}

/-- Evenly spaced samples and stored points are looked up among their positions. -/
theorem find_eq_findPoint (points : s.spacing = .regular ∨ s.spacing = .irregularPoint)
    (several : s.size ≠ 1) (x : ℚ) :
    s.coordEdges? = some (edgesAround s.size_pos s.coordValues) ∧
      s.find x = .ok (findPoint s.size_pos s.coordValues x) := by
  cases layout : s.layout with
  | regular =>
      obtain ⟨i, found, nearest⟩ := exists_nearest layout x
      rw [coordEdges?, layout, found, (findPoint_coordValues_iff x i).2 nearest]
      exact ⟨rfl, rfl⟩
  | points values =>
      have positions : s.coordValues = values := by
        apply Vector.ext
        intro i bound
        simp only [coordValues, Vector.getElem_ofFn, coordValue, layout, Fin.getElem_fin]
      rw [coordEdges?, layout, find_points rfl several layout, positions]
      exact ⟨rfl, rfl⟩
  | edges values =>
      rw [spacing, layout] at points
      rcases points with other | other <;> cases other
  | cells bounds =>
      rw [spacing, layout] at points
      rcases points with other | other <;> cases other

end Find

/-- The edges around points in order are in the same order, with a point between any two neighbours;
and a position is looked up to the point in whose cell it lies. -/
theorem find_iff_surrounds (s : Scale ℚ)
    (points : s.spacing = .regular ∨ s.spacing = .irregularPoint) (several : 2 ≤ s.size)
    {falls : Bool} (ordered : Proceeds falls s.coordValues) :
    ∃ edges : Vector ℚ (s.size + 1), s.coordEdges? = some edges ∧ Proceeds falls edges ∧
      (∀ i, precedes falls (edges.get i.castSucc) (s.coordValues.get i) ∧
        precedes falls (s.coordValues.get i) (edges.get i.succ)) ∧
      ∀ x, ∃ i, s.find x = .ok i ∧ ∀ j, Surrounds falls edges x j ↔ j = i := by
  refine ⟨edgesAround s.size_pos s.coordValues, (find_eq_findPoint points (by omega) 0).1,
    proceeds_edgesAround s.size_pos ordered several, precedes_edges s.size_pos ordered several,
    fun x => ⟨_, (find_eq_findPoint points (by omega) x).2, fun j => ?_⟩⟩
  rw [surrounds_iff s.size_pos ordered several, eq_comm]

/-- Four pressures downwards, the first two of them close to each other. -/
def pressures : Scale ℚ := ⟨4, Nat.succ_pos 3, 1000, 300, .points #v[1000, 850, 500, 300]⟩

theorem find_iff_surrounds_pressures :
    (pressures.spacing = .regular ∨ pressures.spacing = .irregularPoint) ∧ 2 ≤ pressures.size ∧
      Proceeds true pressures.coordValues ∧
      ∃ edges, pressures.coordEdges? = some edges ∧ Proceeds true edges ∧
        ∃ i, pressures.find 675 = .ok i ∧ ∀ j, Surrounds true edges 675 j ↔ j = i := by
  have ordered : Proceeds true pressures.coordValues := by decide +kernel
  obtain ⟨edges, made, order, -, cells⟩ :=
    find_iff_surrounds pressures (.inr rfl) (by decide) ordered
  exact ⟨.inr rfl, by decide, ordered, edges, made, order, cells 675⟩

end Meteo.Scale
