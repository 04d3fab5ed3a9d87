/-
# Meteo.Proofs.Globe.Boxes -- boxes on the circle of longitudes

Longitudes are any numbers of degrees, and two that differ by whole circles are the same
place.  How far a longitude lies east of another one is their difference taken around the
circle (`around`), and how far a box extends east of its western edge is the difference of
its edges taken around the circle, or a full circle (`Box.extent`).  A point should lie in a
box iff its latitude is between those of the edges and its longitude not further east than
the extent.

The width of a box has the circle added once to a negative difference, so the two agree as
long as the western edge is at most a full circle ahead of the eastern one
(`Box.width_of_le`).  Where it is further ahead the width stays negative, and the box holds
nothing, not even its own edges (`Box.width_of_lt`).  `Box.contains_iff_around` says both at once.
-/
import Meteo.Globe.Position
import Meteo.Proofs.Number.Remainder

namespace Meteo

set_option autoImplicit false

/-- A number of degrees taken around the circle: what remains, from none to less than a full
circle, when whole circles are taken away or added. -/
def around (x : ℚ) : ℚ := circle * Int.fract (x / circle)

theorem circle_pos : (0 : ℚ) < circle := by
  norm_num [circle]

theorem around_nonneg (x : ℚ) : 0 ≤ around x :=
  mul_nonneg circle_pos.le (Int.fract_nonneg _)

theorem around_lt (x : ℚ) : around x < circle := by
  unfold around
  exact mul_lt_of_lt_one_right circle_pos (Int.fract_lt_one _)

theorem around_of_lt {x : ℚ} (nonneg : 0 ≤ x) (lt : x < circle) : around x = x := by
  unfold around
  rw [Int.fract_eq_self.2 ⟨div_nonneg nonneg circle_pos.le, (div_lt_one circle_pos).2 lt⟩]
  exact mul_div_cancel₀ x circle_pos.ne'

/-- Whole circles do not count. -/
theorem around_add_mul (x : ℚ) (k : ℤ) : around (x + circle * k) = around x := by
  unfold around
  rw [add_div, mul_div_cancel_left₀ _ circle_pos.ne', Int.fract_add_intCast]

theorem wrap_circle (x : ℚ) : Ordinate.wrap x circle = around x :=
  Fraction.wrap_eq (by decide) x

namespace Box

variable (b : Box ℚ)

/-- How far a box extends east of its western edge: the difference of the edges around the circle,
or a full circle if it is no less than one. -/
def extent : ℚ :=
  if circle ≤ b.lonMax - b.lonMin then (circle : ℚ) else around (b.lonMax - b.lonMin)

theorem width_eq : b.width =
    if b.lonMax - b.lonMin < 0 then b.lonMax - b.lonMin + circle
    else if circle < b.lonMax - b.lonMin then (circle : ℚ) else b.lonMax - b.lonMin := by
  simp only [width, Fraction.lt_eq, Fraction.zero_eq, Fraction.ofNat_eq, decide_eq_true_eq]
  split
  · next negative => rw [if_neg (by linarith)]
  · rfl

theorem contains_eq (lat lon : ℚ) : b.contains lat lon ↔
    (b.latMin ≤ lat ∧ lat ≤ b.latMax) ∧ around (lon - b.lonMin) ≤ b.width := by
  simp only [contains, Fraction.le_eq, wrap_circle, Bool.and_eq_true, decide_eq_true_eq]

variable {b}

/-- Adding the circle once takes a difference around the circle, if it is no less than the opposite
of a full circle. -/
theorem width_of_le (reaches : b.lonMin ≤ b.lonMax + circle) : b.width = b.extent := by
  rw [width_eq, extent]
  generalize difference : b.lonMax - b.lonMin = x
  have atLeast : -(circle : ℚ) ≤ x := by linarith
  by_cases negative : x < 0
  · have short : ¬ (circle : ℚ) ≤ x := by linarith [circle_pos]
    have once := around_add_mul x 1
    rw [Int.cast_one, mul_one, around_of_lt (by linarith) (by linarith)] at once
    rw [if_pos negative, if_neg short, once]
  · rw [if_neg negative]
    rcases lt_trichotomy x circle with less | same | greater
    · rw [if_neg (by linarith), if_neg (by linarith), around_of_lt (by linarith) less]
    · rw [if_neg (by linarith), if_pos same.ge, same]
    · rw [if_pos greater, if_pos greater.le]

theorem width_of_lt (far : b.lonMax + circle < b.lonMin) : b.width < 0 := by
  have pos := circle_pos
  rw [width_eq, if_pos (by linarith)]
  linarith

theorem extent_nonneg : 0 ≤ b.extent := by
  unfold extent
  split
  · exact circle_pos.le
  · exact around_nonneg _

theorem extent_le : b.extent ≤ circle := by
  unfold extent
  split
  · exact le_rfl
  · exact (around_lt _).le

/-- Both edges are within the extent. -/
theorem around_edges_le :
    around (b.lonMin - b.lonMin) ≤ b.extent ∧ around (b.lonMax - b.lonMin) ≤ b.extent := by
  constructor
  · rw [sub_self, around_of_lt le_rfl circle_pos]
    exact extent_nonneg
  · unfold extent
    split
    · exact (around_lt _).le
    · exact le_rfl

/-- A box whose western edge is at most a full circle ahead of the eastern one holds the latitudes
between its edges and the longitudes within its extent; any other box holds nothing. -/
theorem contains_iff_around (b : Box ℚ) :
    (∀ lat lon : ℚ, b.contains lat lon ↔ b.lonMin ≤ b.lonMax + circle ∧
      (b.latMin ≤ lat ∧ lat ≤ b.latMax) ∧ around (lon - b.lonMin) ≤ b.extent) ∧
    (0 ≤ b.width ∧ b.width ≤ circle ↔ b.lonMin ≤ b.lonMax + circle) ∧
    (∀ lat : ℚ, b.contains lat b.lonMin ∧ b.contains lat b.lonMax ↔
      b.lonMin ≤ b.lonMax + circle ∧ b.latMin ≤ lat ∧ lat ≤ b.latMax) ∧
    ∀ (lat lon : ℚ) (k : ℤ), b.contains lat (lon + circle * k) = b.contains lat lon := by
  have held (lat lon : ℚ) : b.contains lat lon ↔ b.lonMin ≤ b.lonMax + circle ∧
      (b.latMin ≤ lat ∧ lat ≤ b.latMax) ∧ around (lon - b.lonMin) ≤ b.extent := by
    rw [contains_eq]
    by_cases reaches : b.lonMin ≤ b.lonMax + circle
    · rw [width_of_le reaches, and_iff_right reaches]
    · have nothing : ¬ around (lon - b.lonMin) ≤ b.width := by
        have negative := width_of_lt (not_le.1 reaches)
        have nonneg := around_nonneg (lon - b.lonMin)
        linarith
      simp [reaches, nothing]
  refine ⟨held, ?_, fun lat => ?_, fun lat lon k => ?_⟩
  · constructor
    · rintro ⟨nonneg, -⟩
      by_contra far
      exact absurd (width_of_lt (not_le.1 far)) (not_lt.2 nonneg)
    · intro reaches
      rw [width_of_le reaches]
      exact ⟨extent_nonneg, extent_le⟩
  · rw [held, held]
    have edges := b.around_edges_le
    tauto
  · have same : around (lon + circle * k - b.lonMin) = around (lon - b.lonMin) := by
      rw [add_sub_right_comm, around_add_mul]
    rw [Bool.eq_iff_iff, held, held, same]

/-- A box that the constructor accepts is an arc of the circle with both its edges. -/
def HoldsArcs : Prop :=
  ∀ (latMin latMax lonMin lonMax : ℚ) (b : Box ℚ),
    ofEdges latMin latMax lonMin lonMax = .ok b →
    (∀ lat lon : ℚ, b.contains lat lon ↔
      (latMin ≤ lat ∧ lat ≤ latMax) ∧ around (lon - lonMin) ≤ b.extent) ∧
    (0 ≤ b.width ∧ b.width ≤ circle) ∧
    (∀ lat : ℚ, latMin ≤ lat → lat ≤ latMax → b.contains lat lonMin ∧ b.contains lat lonMax) ∧
    ∀ (lat lon : ℚ) (k : ℤ), b.contains lat (lon + circle * k) = b.contains lat lon

/-- From 190 degrees east to 175 degrees west: the western edge is 365 degrees ahead. -/
def wound : Box ℚ := ⟨-10, 10, 190, -175⟩

theorem not_holdsArcs : ¬ HoldsArcs := by
  intro arcs
  have accepted : ofEdges (-10 : ℚ) 10 190 (-175) = .ok wound := by rfl
  have edge : wound.contains 0 190 = false := by decide +kernel
  obtain ⟨-, -, edges, -⟩ := arcs _ _ _ _ wound accepted
  have held := (edges 0 (by norm_num) (by norm_num)).1
  rw [edge] at held
  cases held

end Box

end Meteo
