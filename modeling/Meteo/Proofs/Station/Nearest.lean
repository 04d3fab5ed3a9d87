/-
# Meteo.Proofs.Station.Nearest -- the nearest station

The search for the nearest station begins with the first one and with no distance.  A station
takes the place of the best one so far if its distance is less, and where there is no
distance yet, if its own one is finite.  So a distance that is infinite or no number never
wins, and what every prefix of the stations keeps is that the best one so far is the first of
the least, when such distances count as greater than all others (`farness`,
`nearestFrom_spec`).

Distances are sums of squares, so however they are rounded none of them lies below zero
(`position_distance`); a negative infinite one would be passed over, too.
-/
import Meteo.Proofs.Globe.Turns
import Meteo.Proofs.Least
import Meteo.Proofs.Number.Squares
import Meteo.Proofs.Station.Precedence

namespace Meteo

set_option autoImplicit false

open Ordinate Double

/-! ## Distances -/

namespace Double

variable {x y : Float}

/-- A distance in the order of distances: what is infinite or no number comes behind all others. -/
def farness (x : Float) : WithTop Rank := if isFinite x then (rankOf x).elim ⊤ (↑) else ⊤

theorem exists_farness (finite : isFinite x = true) :
    ∃ a : Rank, rankOf x = some a ∧ farness x = a := by
  obtain ⟨a, rank⟩ := exists_rank (Double.isNaN_of_isFinite finite)
  refine ⟨a, rank, ?_⟩
  rw [farness, if_pos finite, rankOf, rank]
  rfl

theorem farness_of_not_isFinite (beyond : isFinite x = false) : farness x = ⊤ := by
  rw [farness, beyond]
  rfl

theorem farness_lt_top_iff : farness x < ⊤ ↔ isFinite x = true := by
  cases finite : isFinite x with
  | true =>
      obtain ⟨a, -, far⟩ := exists_farness finite
      rw [far]
      exact iff_of_true (WithTop.coe_lt_top a) rfl
  | false =>
      rw [farness_of_not_isFinite finite]
      exact iff_of_false (lt_irrefl _) Bool.false_ne_true

/-- What is infinite and does not stand below zero is beyond everything finite. -/
theorem not_le_of_not_isFinite (beyond : isFinite x = false)
    (above : 0 ≤ position x.toModel.unpack) (finite : isFinite y = true) : le x y = false := by
  change x.toModel.unpack.isFinite = false at beyond
  change y.toModel.unpack.isFinite = true at finite
  change decide (x.toModel.unpack.le y.toModel.unpack = true) = false
  generalize x.toModel.unpack = u at above beyond
  generalize y.toModel.unpack = v at finite
  cases u with
  | notANumber => rfl
  | infinity s =>
      cases sign_of_infinity above
      cases v with
      | notANumber => rfl
      | infinity t => cases finite
      | zero t => rfl
      | finite t n f k => rfl
  | zero s => cases beyond
  | finite s m e h => cases beyond

section

variable (above : 0 ≤ position x.toModel.unpack) (finite : isFinite y = true)

include above finite

theorem le_iff_farness : le x y = true ↔ farness x ≤ farness y := by
  obtain ⟨b, rankY, farY⟩ := exists_farness finite
  cases bounded : isFinite x with
  | true =>
      obtain ⟨a, rankX, farX⟩ := exists_farness bounded
      rw [le_iff, rankX, rankY, farX, farY, WithTop.coe_le_coe]
      simp
  | false =>
      rw [not_le_of_not_isFinite bounded above finite, farness_of_not_isFinite bounded, farY]
      exact iff_of_false Bool.false_ne_true (WithTop.not_top_le_coe b)

theorem lt_iff_farness : lt x y = true ↔ farness x < farness y := by
  obtain ⟨b, rankY, farY⟩ := exists_farness finite
  cases bounded : isFinite x with
  | true =>
      obtain ⟨a, rankX, farX⟩ := exists_farness bounded
      rw [lt_iff, rankX, rankY, farX, farY, WithTop.coe_lt_coe]
      simp
  | false =>
      have notLess : lt x y = false := Bool.eq_false_iff.2 fun less => by
        have le := OrderedOrdinate.le_of_lt less
        rw [not_le_of_not_isFinite bounded above finite] at le
        cases le
      rw [notLess, farness_of_not_isFinite bounded]
      exact iff_of_false Bool.false_ne_true (not_lt_of_ge le_top)

theorem le_of_farness_le (number : isNaN x = false) (least : farness y ≤ farness x) :
    le y x = true := by
  refine RoundedOrdinate.le_of_not_lt (RoundedOrdinate.isNaN_of_isFinite finite) number ?_
  rw [← Bool.not_eq_true, lt_iff_farness above finite]
  exact not_lt_of_ge least

theorem not_le_of_farness_lt (farther : farness y < farness x) : le x y = false := by
  rw [← Bool.not_eq_true, le_iff_farness above finite]
  exact not_le_of_gt farther

end

end Double

namespace Selection

variable {β : Type}

/-- The least distance so far, if there is one. -/
def finite? (d : Float) : Option Float := if isFinite d then some d else none

theorem finite?_of_isFinite {d : Float} (finite : isFinite d = true) : finite? d = some d :=
  if_pos finite

/-- One station further. -/
theorem nearestFrom_cons {d e : Float} (b c : β) (rest : List (β × Float))
    (above : 0 ≤ position d.toModel.unpack) :
    nearestFrom c (finite? e) ((b, d) :: rest) =
      if farness d < farness e then nearestFrom b (finite? d) rest
      else nearestFrom c (finite? e) rest := by
  have taken (nearer : farness d < farness e) :
      nearestFrom b (some d) rest = nearestFrom b (finite? d) rest := by
    rw [finite?_of_isFinite (farness_lt_top_iff.1 (nearer.trans_le le_top))]
  cases finite : isFinite e with
  | true =>
      rw [finite?_of_isFinite finite]
      simp only [nearestFrom, lt_iff_farness above finite]
      exact ite_congr rfl taken fun _ => rfl
  | false =>
      have none : finite? e = none := if_neg (Bool.eq_false_iff.1 finite)
      rw [none]
      simp only [nearestFrom, ← farness_lt_top_iff, ← farness_of_not_isFinite finite]
      exact ite_congr rfl taken fun _ => rfl

/-- The best station so far is the first of the least, however many more there are. -/
theorem nearestFrom_spec {before rest : List (β × Float)} {c : β} {e : Float}
    (best : FirstLeast (fun m => farness m.2) before (c, e))
    (above : ∀ m ∈ rest, 0 ≤ position m.2.toModel.unpack) :
    ∃ l, FirstLeast (fun m => farness m.2) (before ++ rest)
      (nearestFrom c (finite? e) rest, l) := by
  induction rest generalizing before c e with
  | nil => exact ⟨e, by rwa [List.append_nil]⟩
  | cons m rest ih =>
      obtain ⟨b, d⟩ := m
      obtain ⟨aboveD, aboveRest⟩ := List.forall_mem_cons.1 above
      rw [List.append_cons, nearestFrom_cons b c rest aboveD]
      split
      · next nearer => exact ih (best.replace nearer) aboveRest
      · next farther => exact ih (best.keep (not_lt.1 farther)) aboveRest

/-- The search begins with the first station. -/
theorem nearest?_spec {measured : List (β × Float)} (occupied : measured ≠ [])
    (above : ∀ m ∈ measured, 0 ≤ position m.2.toModel.unpack) :
    ∃ c d, nearest? measured = some c ∧ FirstLeast (fun m => farness m.2) measured (c, d) := by
  cases measured with
  | nil => exact absurd rfl occupied
  | cons m rest =>
      obtain ⟨b, d⟩ := m
      obtain ⟨aboveD, aboveRest⟩ := List.forall_mem_cons.1 above
      obtain ⟨l, found⟩ := nearestFrom_spec (.singleton (b, d)) aboveRest
      refine ⟨_, l, ?_, found⟩
      have start : nearestFrom b none ((b, d) :: rest) = nearestFrom b (finite? d) rest := by
        simp only [nearestFrom, finite?]
        split
        · rfl
        · rfl
      rw [nearest?, start]

/-- Nothing is farther than what is infinite or no number. -/
theorem eq_nil_of_farther {before : List (β × Float)} {d : Float}
    (farther : ∀ m ∈ before, farness d < farness m.2) (beyond : isFinite d = false) :
    before = [] := by
  rw [List.eq_nil_iff_forall_not_mem]
  intro m member
  have above := farther m member
  rw [farness_of_not_isFinite beyond] at above
  exact not_top_lt above

/-- No distance lies below zero. -/
theorem position_distance {p : Point Float} {s : Station} {d : Float}
    (measured : distanceTo p s = .ok d) : 0 ≤ position d.toModel.unpack := by
  obtain ⟨near, -, rfl⟩ := Outcome.map_eq_ok.1 (Outcome.eq_ok_of_mapError measured)
  exact position_add_squares _ _

/-- Among stations all of which are measured, the first of those at the least finite distance is
found: no distance that is a number is less, and no station before it is as near.  Without a
finite distance the first station is found. -/
theorem nearestOf_first {place : β → Station} {p : Point Float} {cs : List β} {ds : List Float}
    (occupied : cs ≠ []) (measured : (cs.mapM fun c => distanceTo p (place c)) = .ok ds) :
    ∃ before c d behind, cs.zip ds = before ++ (c, d) :: behind ∧
      nearestOf place p cs = .ok c ∧
      ((∃ e ∈ ds, isFinite e = true) →
        isFinite d = true ∧ (∀ e ∈ ds, isNaN e = false → le d e = true) ∧
          ∀ m ∈ before, le m.2 d = false) ∧
      ((∀ e ∈ ds, isFinite e = false) → before = []) := by
  have pairs : (cs.mapM fun c => do return (c, ← distanceTo p (place c))) = .ok (cs.zip ds) := by
    rw [Outcome.mapM_pair, measured]
    rfl
  obtain ⟨lengths, distances⟩ := List.forall₂_iff_zip.1 (Outcome.forall₂_of_mapM measured)
  have paired {e : Float} (listed : e ∈ ds) : ∃ c, (c, e) ∈ cs.zip ds := by
    rw [← List.map_snd_zip lengths.ge] at listed
    obtain ⟨m, member, rfl⟩ := List.mem_map.1 listed
    exact ⟨m.1, member⟩
  have above (m : β × Float) (member : m ∈ cs.zip ds) : 0 ≤ position m.2.toModel.unpack :=
    position_distance (distances member)
  have some : cs.zip ds ≠ [] := by
    intro none
    rcases List.zip_eq_nil_iff.1 none with empty | empty
    · exact occupied empty
    · rw [empty] at lengths
      exact occupied (List.length_eq_zero_iff.1 lengths)
  obtain ⟨c, d, found, first⟩ := nearest?_spec some above
  have least {e : Float} (listed : e ∈ ds) : farness d ≤ farness e := by
    obtain ⟨b, member⟩ := paired listed
    have notLess := first.le member
    exact notLess
  obtain ⟨before, behind, split, others, -⟩ := first
  have earlier (m : β × Float) (member : m ∈ before) : m ∈ cs.zip ds ∧ farness d < farness m.2 :=
    ⟨split ▸ List.mem_append_left _ member, others m member⟩
  refine ⟨before, c, d, behind, split, (nearestOf_eq_ok_iff_of_measured pairs).2 found, ?_, ?_⟩
  · rintro ⟨e, listed, finite⟩
    have near : isFinite d = true :=
      farness_lt_top_iff.1 ((least listed).trans_lt (farness_lt_top_iff.2 finite))
    refine ⟨near, fun e listed number => ?_, fun m member => ?_⟩
    · obtain ⟨b, member⟩ := paired listed
      exact le_of_farness_le (above (b, e) member) near number (least listed)
    · obtain ⟨listed, farther⟩ := earlier m member
      exact not_le_of_farness_lt (above m listed) near farther
  · intro none
    have listed : (c, d) ∈ cs.zip ds := split ▸ List.mem_append_right _ List.mem_cons_self
    exact eq_nil_of_farther others (none d (List.of_mem_zip listed).2)

theorem not_isFinite_add {x : Float} (missing : isNaN x = true) (y : Float) :
    isFinite (x + y) = false := by
  have unpacked : x.toModel.unpack = .notANumber := by
    change x.toModel.unpack.isNaN = true at missing
    cases unpack : x.toModel.unpack with
    | notANumber => rfl
    | infinity s => rw [unpack] at missing; cases missing
    | zero s => rw [unpack] at missing; cases missing
    | finite s m e h => rw [unpack] at missing; cases missing
  change (x + y).toModel.unpack.isFinite = false
  rw [unpack_add, unpacked, Float.Model.UnpackedFloat.add, stored_notANumber]
  rfl

/-- A station at no known latitude. -/
def adrift : Station := { name := "A", lat := 0.0 / 0.0, lon := 0.0 }

def northern : Station := { name := "B", lat := 1.0, lon := 0.0 }

def southern : Station := { name := "C", lat := -1.0, lon := 0.0 }

/-- A station at no known latitude in front of two that are as near to the equator. -/
def flanking : List Station := [adrift, northern, southern]

/-- The first of the two is found, unless the cosine makes both distances no numbers. -/
theorem nearestOf_first_flanking :
    ∃ ds, flanking ≠ [] ∧ (flanking.mapM fun s => distanceTo ⟨0.0, 0.0⟩ (id s)) = .ok ds ∧
      ((∃ e ∈ ds, isFinite e = true) → nearestOf id ⟨0.0, 0.0⟩ flanking = .ok northern) ∧
      ((∀ e ∈ ds, isFinite e = false) → nearestOf id ⟨0.0, 0.0⟩ flanking = .ok adrift) := by
  have occupied : flanking ≠ [] := List.cons_ne_nil _ _
  have reaches : ∀ s ∈ flanking, Reaches ⟨0.0, 0.0⟩ s := by
    unfold Reaches
    decide +kernel
  obtain ⟨ds, measured⟩ := Outcome.exists_mapM_iff.2 fun s member =>
    distanceTo_of_reaches (reaches s member)
  obtain ⟨before, s, d, behind, split, found, finite, infinite⟩ :=
    nearestOf_first occupied measured
  -- The stations on both sides are at the same distance, whatever the cosine is.
  have sides : distanceTo ⟨0.0, 0.0⟩ northern = distanceTo ⟨0.0, 0.0⟩ southern := rfl
  obtain _ | ⟨away, _ | ⟨north, _ | ⟨south, _ | _⟩⟩⟩ := Outcome.forall₂_of_mapM measured
  obtain rfl := Except.ok.inj ((north.symm.trans sides).trans south)
  refine ⟨_, occupied, measured, fun some => ?_, fun none => ?_⟩
  · obtain ⟨number, -, earlier⟩ := finite some
    obtain _ | ⟨m, _ | ⟨m', before⟩⟩ := before
    · obtain ⟨near, -, sum⟩ := Outcome.map_eq_ok.1 (Outcome.eq_ok_of_mapError away)
      cases split
      rw [← sum, not_isFinite_add rfl] at number
      cases number
    · cases split
      exact found
    · obtain _ | ⟨m'', before⟩ := before
      · cases split
        have farther := earlier _ (List.mem_cons_of_mem _ List.mem_cons_self)
        rw [RoundedOrdinate.le_refl (RoundedOrdinate.isNaN_of_isFinite number)] at farther
        cases farther
      · cases before <;> cases split
  · obtain rfl := infinite none
    cases split
    exact found

end Selection

end Meteo
