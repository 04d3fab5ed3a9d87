/-
# Meteo.Proofs.Globe.Turns -- the nearest place does not depend on how longitudes are counted

A longitude may be counted with any number of whole circles.  The longitude that a distance is
measured to is brought within half a circle of the point first (`exists_lonNear`), and two
numbers within half a circle that differ by whole circles are the same or opposite: they are
the two ends of the range (`eq_or_eq_neg_of_turns`).  On which end a longitude comes to lie
half a circle away depends on how it is counted, but a distance is made of squares, so it does
not (`distance_turned`), and neither does the place found nearest (`nearestAt_turned`).

`nearestAt` is the search itself, in any numbers and with the position of what is found.  The
search that runs is the one over doubles (`Selection.nearestOf_eq_ok_iff`).
-/
import Mathlib.Tactic.LinearCombination
import Meteo.Proofs.Number.Remainder
import Meteo.Proofs.Station.Selection

namespace Meteo

set_option autoImplicit false

section

variable {α β γ : Type} [Ordinate α]

/-- The distances from a point to places. -/
def distances (m : AngleMeasure α) (p : Point α) (places : List (Point α)) :
    Except Unrounded (List α) :=
  places.mapM fun q => distance m p q.lat q.lon

/-- The position of the first place that is nearest to a point, if there are places. -/
def nearestAt (m : AngleMeasure α) (p : Point α) (places : List (Point α)) :
    Except Unrounded (Option Nat) :=
  (distances m p places).map fun ds => nearest? ((List.range ds.length).zip ds)

/-! ## The search that runs -/

theorem nearestFrom_map (f : β → γ) (best : β) (least : Option α) (candidates : List (β × α)) :
    nearestFrom (f best) least (candidates.map (Prod.map f id)) =
      f (nearestFrom best least candidates) := by
  induction candidates generalizing best least with
  | nil => rfl
  | cons e rest ih =>
      simp only [List.map_cons, Prod.map, id_eq, nearestFrom, ih]
      split <;> split <;> rfl

/-- Candidates under other names: the same one is nearest. -/
theorem nearest?_map (f : β → γ) (candidates : List (β × α)) :
    nearest? (candidates.map (Prod.map f id)) = (nearest? candidates).map f := by
  cases candidates with
  | nil => rfl
  | cons e rest => exact congrArg some (nearestFrom_map f e.1 none (e :: rest))

/-- Candidates and their positions. -/
theorem map_nearest?_zip (cs : List β) (ds : List α) (length : ds.length = cs.length) :
    (nearest? ((List.range ds.length).zip ds)).map (cs[·]?) =
      (nearest? (cs.zip ds)).map some := by
  have entries : (List.range ds.length).map (cs[·]?) = cs.map some := by
    refine List.ext_getElem? fun i => ?_
    rw [length, List.getElem?_map, List.getElem?_map]
    by_cases within : i < cs.length
    · simp [within]
    · simp [within]
  rw [← nearest?_map, ← nearest?_map]
  simp only [← List.zip_map_left, entries]

end

namespace Selection

variable {β : Type}

/-- Where a station is. -/
def placeOf (s : Station) : Point Float := ⟨s.lat, s.lon⟩

theorem nearestOf_eq_ok_iff_of_measured {place : β → Station} {p : Point Float} {cs : List β}
    {candidates : List (β × Float)} {c : β}
    (measured : (cs.mapM fun c => do return (c, ← distanceTo p (place c))) = .ok candidates) :
    nearestOf place p cs = .ok c ↔ nearest? candidates = some c := by
  unfold nearestOf
  rw [measured]
  cases cs with
  | nil =>
      cases measured
      constructor
      · intro found
        cases found
      · intro found
        cases found
  | cons b bs =>
      simp only [List.isEmpty_cons, Bool.false_eq_true, if_false, bind, Except.bind]
      cases nearest? candidates with
      | none =>
          constructor
          · intro found
            cases found
          · intro found
            cases found
      | some b' =>
          rw [Option.some_inj]
          exact ⟨Except.ok.inj, congrArg Except.ok⟩

/-- The stations are searched by their places, in doubles. -/
theorem nearestOf_eq_ok_iff {place : β → Station} {p : Point Float} {cs : List β} {c : β} :
    nearestOf place p cs = .ok c ↔ ∃ n,
      nearestAt AngleMeasure.double p (cs.map fun c => placeOf (place c)) = .ok (some n) ∧
        cs[n]? = some c := by
  have measured : (cs.mapM fun c => do return (c, ← distanceTo p (place c))) =
      ((distances AngleMeasure.double p (cs.map fun c => placeOf (place c))).mapError fun _ =>
        Error.fault .badValue).map cs.zip := by
    rw [Outcome.mapM_pair, distances, List.mapM_map, ← Outcome.mapM_mapError]
    rfl
  have lengths {ds : List Float}
      (made : distances AngleMeasure.double p (cs.map fun c => placeOf (place c)) = .ok ds) :
      ds.length = cs.length := by
    rw [← (Outcome.forall₂_of_mapM made).length_eq, List.length_map]
  cases made : distances AngleMeasure.double p (cs.map fun c => placeOf (place c)) with
  | error e =>
      rw [nearestOf, measured, made, nearestAt, made]
      constructor
      · intro found
        split at found <;> cases found
      · rintro ⟨n, found, -⟩
        cases found
  | ok ds =>
      have positions := map_nearest?_zip cs ds (lengths made)
      have chosen : nearestOf place p cs = .ok c ↔ nearest? (cs.zip ds) = some c :=
        nearestOf_eq_ok_iff_of_measured (measured.trans (by rw [made]; rfl))
      rw [chosen, nearestAt, made]
      constructor
      · intro found
        rw [found] at positions
        obtain ⟨n, place, entry⟩ := Option.map_eq_some_iff.1 positions
        exact ⟨n, congrArg Except.ok place, entry⟩
      · rintro ⟨n, found, entry⟩
        have best : nearest? ((List.range ds.length).zip ds) = some n := Except.ok.inj found
        rw [best, Option.map_some, entry] at positions
        obtain ⟨c', same, found'⟩ := Option.map_eq_some_iff.1 positions.symm
        rw [same, Option.some.inj found']

end Selection

section

variable {α : Type} [Ordinate α] {m : AngleMeasure α} {p : Point α} {places : List (Point α)}

/-- Among places that can all be measured to, one is nearest. -/
theorem exists_nearestAt {ds : List α} (made : distances m p places = .ok ds)
    (occupied : places ≠ []) : ∃ n < places.length, nearestAt m p places = .ok (some n) := by
  have length : places.length = ds.length := (Outcome.forall₂_of_mapM made).length_eq
  cases ds with
  | nil => exact absurd (List.length_eq_zero_iff.1 length) occupied
  | cons d ds =>
      have found : nearest? ((List.range (d :: ds).length).zip (d :: ds)) =
          some (nearestFrom 0 none ((List.range (d :: ds).length).zip (d :: ds))) := by
        rw [List.length_cons, List.range_succ_eq_map]
        rfl
      refine ⟨_, ?_, (congrArg (Except.map _) made).trans (congrArg Except.ok found)⟩
      rw [length, ← List.mem_range]
      have member := nearestFrom_mem 0 none ((List.range (d :: ds).length).zip (d :: ds))
      rw [List.map_fst_zip (List.length_range ▸ le_refl _)] at member
      rcases List.mem_cons.1 member with first | later
      · rw [first, List.mem_range]
        exact Nat.zero_lt_succ _
      · exact later

end

/-! ## Whole circles -/

/-- Numbers within half a circle that differ by whole circles are the same, or the two ends. -/
theorem eq_or_eq_neg_of_turns {r r' : ℚ} {k : ℤ} (differ : r' - r = circle * k)
    (near : |r| ≤ circle / 2) (near' : |r'| ≤ circle / 2) : r' = r ∨ r' = -r := by
  rw [abs_le] at near near'
  have pos : (0 : ℚ) < circle := by norm_num [circle]
  have low : (-2 : ℚ) < k := by
    by_contra below
    have := mul_le_mul_of_nonneg_left (not_lt.1 below) pos.le
    linarith
  have high : (k : ℚ) < 2 := by
    by_contra above
    have := mul_le_mul_of_nonneg_left (not_lt.1 above) pos.le
    linarith
  have few : k = -1 ∨ k = 0 ∨ k = 1 := by
    have low : -2 < k := by exact_mod_cast low
    have high : k < 2 := by exact_mod_cast high
    omega
  rcases few with rfl | rfl | rfl
  · right
    push_cast at differ
    linarith
  · left
    push_cast at differ
    linarith
  · right
    push_cast at differ
    linarith

/-- The longitude that is measured to lies within half a circle, whole circles away. -/
theorem exists_lonNear (lon center : ℚ) :
    ∃ (r : ℚ) (k : ℤ), lonNear lon center = .ok (center + r) ∧ |r| ≤ circle / 2 ∧
      center + r = lon + circle * k := by
  obtain ⟨r, k, made, rest, near⟩ :=
    Fraction.exists_remainder? (n := circle) (by decide) (lon - center)
  refine ⟨r, -k, ?_, near, ?_⟩
  · rw [lonNear, made]
    rfl
  · rw [rest]
    push_cast
    ring

/-- Angles measured by any multiple of their degrees, and by any function in place of the cosine. -/
def AngleMeasure.scaled (factor : ℚ) (cos : ℚ → ℚ) : AngleMeasure ℚ := ⟨(factor * ·), cos⟩

/-- The same place with its longitude counted whole circles further. -/
def Point.turned (q : Point ℚ) (k : ℤ) : Point ℚ := { q with lon := q.lon + circle * k }

section Turned

variable (factor : ℚ) (cos : ℚ → ℚ) (p q : Point ℚ)

theorem Point.turned_zero : p.turned 0 = p := by
  simp [turned]

theorem exists_distance : ∃ d, distance (.scaled factor cos) p q.lat q.lon = .ok d := by
  obtain ⟨r, -, made, -⟩ := exists_lonNear q.lon p.lon
  rw [distance, made]
  exact ⟨_, rfl⟩

theorem distance_turned (i j : ℤ) :
    distance (.scaled factor cos) (p.turned i) (q.turned j).lat (q.turned j).lon =
      distance (.scaled factor cos) p q.lat q.lon := by
  obtain ⟨r, k, made, near, whole⟩ := exists_lonNear q.lon p.lon
  obtain ⟨r', k', made', near', whole'⟩ := exists_lonNear (q.turned j).lon (p.turned i).lon
  have differ : r' - r = circle * (k' - k + j - i : ℤ) := by
    simp only [Point.turned] at whole'
    push_cast
    linear_combination whole' - whole
  rw [distance, distance, made, made']
  -- what is squared is the factor times `-r`, whichever longitudes it is the difference of
  have measured (x y : ℚ) : x - (x + y) = -y := by ring
  simp only [Except.map, AngleMeasure.scaled, measured, Point.turned]
  rcases eq_or_eq_neg_of_turns differ near near' with same | opposite
  · rw [same]
  · rw [opposite]
    congr 1
    ring

/-- The distances to places, each counted in its own way. -/
theorem distances_turned (es : List (Point ℚ × ℤ)) :
    distances (.scaled factor cos) p (es.map fun e => e.1.turned e.2) =
      distances (.scaled factor cos) p (es.map Prod.fst) := by
  simp only [distances, List.mapM_map]
  refine Outcome.mapM_congr fun e _ => ?_
  have own := distance_turned factor cos p e.1 0 e.2
  rwa [Point.turned_zero] at own

end Turned

/-- Longitudes are brought within half a circle by whole circles; distances do not depend on how
the longitudes are counted, and neither does the position of the place found nearest among places
each of which may be counted in its own way. -/
theorem nearestAt_turned (factor : ℚ) (cos : ℚ → ℚ) :
    (∀ lon center : ℚ, ∃ near : ℚ, lonNear lon center = .ok near ∧
      center - 180 ≤ near ∧ near ≤ center + 180 ∧ ∃ k : ℤ, near = lon + 360 * k) ∧
    (∀ (p q : Point ℚ) (i j : ℤ), ∃ d : ℚ,
      distance (.scaled factor cos) p q.lat q.lon = .ok d ∧
      distance (.scaled factor cos) (p.turned i) q.lat (q.turned j).lon = .ok d) ∧
    ∀ (p : Point ℚ) (first : Point ℚ × ℤ) (others : List (Point ℚ × ℤ)),
      ∃ n < (first :: others).length,
        nearestAt (.scaled factor cos) p ((first :: others).map Prod.fst) = .ok (some n) ∧
        nearestAt (.scaled factor cos) p
          ((first :: others).map fun e => e.1.turned e.2) = .ok (some n) := by
  refine ⟨fun lon center => ?_, fun p q i j => ?_, fun p first others => ?_⟩
  · obtain ⟨r, k, made, near, whole⟩ := exists_lonNear lon center
    rw [abs_le] at near
    norm_num [circle] at near whole
    exact ⟨center + r, made, by linarith, by linarith, k, whole⟩
  · obtain ⟨d, made⟩ := exists_distance factor cos p q
    exact ⟨d, made, (distance_turned factor cos p q i j).trans made⟩
  · obtain ⟨ds, made⟩ : ∃ ds, distances (.scaled factor cos) p
        ((first :: others).map Prod.fst) = .ok ds :=
      Outcome.exists_mapM_iff.2 fun q _ => exists_distance factor cos p q
    obtain ⟨n, within, found⟩ := exists_nearestAt made (List.cons_ne_nil _ _)
    refine ⟨n, List.length_map Prod.fst ▸ within, found, ?_⟩
    rw [nearestAt, distances_turned]
    exact found

end Meteo
