/-
# Meteo.Proofs.Station.Closest -- the observation closest to an instant

The search keeps the best observation so far, and another one takes its place if it is closer:
at a lesser distance, or at the same distance and earlier.  Distances wrap around, so what is
found among observations with a time is the first of the least by the shorter way around the
circle of counts, and then by time (`around`, `closestFrom_spec`).  That is the closest one as
long as no observation is half a circle away, which is some 292 years
(`closest?_around`); farther ones seem to come nearer again, and one that is exactly half
a circle away has no distance and, if it is the first one, is never replaced.

So it is not true that the closest observation of the years 1678 to 2261 is always found
(`not_findsClosest`).
-/
import Meteo.Proofs.Least
import Meteo.Proofs.Station.Times
import Meteo.Proofs.Time.Instant

namespace Meteo.Temporal

set_option autoImplicit false

open Time

/-- The order by distance and then by time, in nanoseconds. -/
def exactly (w : Instant) (o : Observation) : ℤ ×ₗ ℤ :=
  toLex (|o.time.nanos - w.nanos|, o.time.nanos)

/-- The order by the shorter way around and then by time. -/
def around (w : Instant) (o : Observation) : ℤ ×ₗ ℤ :=
  toLex (o.time.arc w, o.time.nanos)

variable {w : Instant} {o p : Observation}

section

variable (known : w.isPresent = true) (timed : o.time.isPresent = true)
  (timed' : p.time.isPresent = true)

include known timed timed'

/-- One observation is closer than another that is less than half a circle away, if it comes before
it. -/
theorem closer_iff : closer w o p = true ↔ p.time.arc w < 2 ^ 63 ∧ around w o < around w p := by
  rw [closer, around, around, Prod.Lex.toLex_lt_toLex]
  dsimp only
  split
  · next level =>
    rw [Instant.abs_since_eq_iff timed timed' known] at level
    rw [Bool.and_eq_true, Instant.lt_iff timed timed', Bool.not_eq_true', ← Bool.not_eq_true,
      Instant.eq_iff timed timed']
    omega
  · next level =>
    rw [Instant.abs_since_eq_iff timed timed' known] at level
    rw [Instant.abs_since_lt_iff timed timed' known]
    omega

end

theorem arc_le_of_around_le (le : around w o ≤ around w p) : o.time.arc w ≤ p.time.arc w := by
  rw [around, around, Prod.Lex.toLex_le_toLex] at le
  dsimp only at le
  omega

/-- An observation that no other is closer than is kept. -/
theorem closestFrom_of_never {os : List Observation} (never : ∀ p ∈ os, closer w p o = false) :
    closestFrom w o os = o := by
  induction os with
  | nil => rfl
  | cons p os ih =>
      obtain ⟨here, later⟩ := List.forall_mem_cons.1 never
      rw [closestFrom_cons, here, if_neg Bool.false_ne_true]
      exact ih later

/-- Once the best observation so far is less than half a circle away, it is the first of the least,
however many more there are. -/
theorem closestFrom_spec {before os : List Observation} (known : w.isPresent = true)
    (best : FirstLeast (around w) before o) (near : o.time.arc w < 2 ^ 63)
    (timed : o.time.isPresent = true) (allTimed : ∀ p ∈ os, p.time.isPresent = true) :
    FirstLeast (around w) (before ++ os) (closestFrom w o os) := by
  induction os generalizing before o with
  | nil => rwa [List.append_nil]
  | cons p os ih =>
      obtain ⟨timed', laterTimed⟩ := List.forall_mem_cons.1 allTimed
      rw [List.append_cons, closestFrom_cons]
      by_cases nearer : closer w p o
      · rw [if_pos nearer]
        obtain ⟨-, less⟩ := (closer_iff known timed' timed).1 nearer
        have near' := (arc_le_of_around_le less.le).trans_lt near
        exact ih (best.replace less) near' timed' laterTimed
      · rw [if_neg nearer]
        rw [closer_iff known timed' timed, not_and, not_lt] at nearer
        exact ih (best.keep (nearer near)) near timed laterTimed

section

variable {os : List Observation} (known : w.isPresent = true)
  (timed : ∀ p ∈ o :: os, p.time.isPresent = true)

include known timed

theorem closestFrom_around (near : o.time.arc w < 2 ^ 63) :
    FirstLeast (around w) (o :: os) (closestFrom w o os) := by
  obtain ⟨first, later⟩ := List.forall_mem_cons.1 timed
  exact closestFrom_spec known (.singleton o) near first later

/-- An observation half a circle away is never replaced. -/
theorem closestFrom_of_opposite (opposite : o.time.arc w = 2 ^ 63) : closestFrom w o os = o := by
  obtain ⟨first, later⟩ := List.forall_mem_cons.1 timed
  refine closestFrom_of_never fun p member => ?_
  rw [← Bool.not_eq_true, closer_iff known (later p member) first, opposite]
  exact fun closer => lt_irrefl _ closer.1

/-- With all observations less than half a circle away no way around is shorter. -/
theorem closestFrom_exactly (near : ∀ p ∈ o :: os, |p.time.nanos - w.nanos| < 2 ^ 63) :
    FirstLeast (exactly w) (o :: os) (closestFrom w o os) := by
  have straight {p : Observation} (member : p ∈ o :: os) :
      p.time.arc w = |p.time.nanos - w.nanos| := Instant.arc_of_near (near p member).le
  have ahead : o.time.arc w < 2 ^ 63 := by
    rw [straight List.mem_cons_self]
    exact near o List.mem_cons_self
  refine (closestFrom_around known timed ahead).congr fun p member q member' => ?_
  rw [exactly, exactly, around, around, straight member, straight member']

end

/-- Among observations with a time one is found: the first of the least by the shorter way around
and then by time, if the first observation is less than half a circle away, and otherwise the
first observation.  When all of them are that near it is the first of the least by distance and
then by time. -/
theorem closest?_around {os : List Observation} (known : w.isPresent = true)
    (timed : ∀ p ∈ o :: os, p.time.isPresent = true) :
    ∃ c, closest? w (o :: os) = some c ∧
      (o.time.arc w < 2 ^ 63 → FirstLeast (around w) (o :: os) c) ∧
      (o.time.arc w = 2 ^ 63 → c = o) ∧
      ((∀ p ∈ o :: os, |p.time.nanos - w.nanos| < 2 ^ 63) →
        FirstLeast (exactly w) (o :: os) c) :=
  ⟨closestFrom w o os, rfl, closestFrom_around known timed, closestFrom_of_opposite known timed,
    closestFrom_exactly known timed⟩

/-! ## Observations of several centuries -/

/-- The beginning of 1678. -/
def earliest : Observation := ⟨⟨-9214560000000000000⟩, .empty⟩

/-- The beginning of 2000. -/
def millennial : Observation := ⟨⟨946684800000000000⟩, .empty⟩

/-- The beginning of 2261. -/
def latest : Instant := ⟨9183110400000000000⟩

theorem closest?_around_centuries :
    latest.isPresent = true ∧ (∀ p ∈ [earliest, millennial], p.time.isPresent = true) ∧
      earliest.time.arc latest < 2 ^ 63 ∧
      ∃ c, closest? latest [earliest, millennial] = some c ∧
        (earliest.time.arc latest < 2 ^ 63 →
          FirstLeast (around latest) [earliest, millennial] c) ∧
        (earliest.time.arc latest = 2 ^ 63 → c = earliest) ∧
        ((∀ p ∈ [earliest, millennial], |p.time.nanos - latest.nanos| < 2 ^ 63) →
          FirstLeast (exactly latest) [earliest, millennial] c) := by
  have known : latest.isPresent = true := by decide
  have timed : ∀ p ∈ [earliest, millennial], p.time.isPresent = true := by decide
  exact ⟨known, timed, by decide, closest?_around known timed⟩

/-- A time of the years that nanoseconds cover. -/
def Covered (t : Instant) : Prop :=
  t.isPresent = true ∧ 1678 ≤ t.split.1.year ∧ t.split.1.year ≤ 2261

instance (t : Instant) : Decidable (Covered t) := inferInstanceAs (Decidable (_ ∧ _ ∧ _))

/-- The closest observation is found among all that the nanoseconds cover. -/
def FindsClosest : Prop :=
  ∀ (w : Instant) (o : Observation) (os : List Observation), Covered w →
    (∀ p ∈ o :: os, Covered p.time) →
    ∃ c, closest? w (o :: os) = some c ∧ FirstLeast (exactly w) (o :: os) c

/-- Seen from 2261 the year 1678 seems closer than the year 2000. -/
theorem not_findsClosest : ¬ FindsClosest := by
  intro all
  have covered : Covered latest ∧ ∀ p ∈ [earliest, millennial], Covered p.time := by
    decide +kernel
  obtain ⟨c, found, first⟩ := all latest earliest [millennial] covered.1 covered.2
  have passed : closest? latest [earliest, millennial] = some earliest := by rfl
  rw [passed] at found
  cases found
  have notFarther := first.le (List.mem_cons_of_mem _ (List.mem_singleton_self millennial))
  exact absurd notFarther (by decide)

end Meteo.Temporal
