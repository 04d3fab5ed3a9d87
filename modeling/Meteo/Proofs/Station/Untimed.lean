/-
# Meteo.Proofs.Station.Untimed -- observations without a time

An observation may be stored without a time.  Such a time compares false with every other, so
it lies outside of no range, and a range keeps the observation (`mem_keptBy`).  Its distance
from the wanted instant is neither less than another one nor as long: only an observation with
a time takes the place of another, and only of one with a time (`timed_of_closer`).  So the
first observation decides for the whole series.  If it has no time it is the one that is found,
wherever the others lie, and otherwise one with a time is found (`closestFrom_untimed`).

The two together: what a range leaves is seen as an observation without a time if and only if
one stands before all observations in the range (`reduced_untimed_iff`).  So neither the range
nor the wanted instant leaves these observations out (`not_leavesOutUntimed`).
-/
import Meteo.Proofs.Station.Reduction

namespace Meteo.Temporal

set_option autoImplicit false

open Time

variable {w : Instant} {o p : Observation} {s : Station} {range : Option (List Given)}
  {wanted : Given} {r : Range}

theorem isPresent_of_abs_since {t u : Instant} (measured : (t.since u).abs.isPresent = true) :
    t.isPresent = true := by
  rw [Span.isPresent_abs, Instant.since] at measured
  cases present : t.isPresent with
  | true => rfl
  | false =>
      rw [present] at measured
      cases measured

/-- One observation is closer than another only if both have a time. -/
theorem timed_of_closer (nearer : closer w o p = true) :
    o.time.isPresent = true ∧ p.time.isPresent = true := by
  rw [closer] at nearer
  split at nearer
  · obtain ⟨-, earlier⟩ := Bool.and_eq_true_iff.1 nearer
    exact Bool.and_eq_true_iff.1 (Bool.and_eq_true_iff.1 earlier).1
  · obtain ⟨measured, measured'⟩ := Bool.and_eq_true_iff.1 (Bool.and_eq_true_iff.1 nearer).1
    exact ⟨isPresent_of_abs_since measured, isPresent_of_abs_since measured'⟩

/-- The best observation so far keeps having a time, or having none, however many more there are. -/
theorem isPresent_closestFrom (w : Instant) (o : Observation) (os : List Observation) :
    (closestFrom w o os).time.isPresent = o.time.isPresent := by
  induction os generalizing o with
  | nil => rfl
  | cons p os ih =>
      rw [closestFrom_cons, ih]
      split
      · next nearer =>
        obtain ⟨timed, timed'⟩ := timed_of_closer nearer
        rw [timed, timed']
      · rfl

/-- An observation without a time is never replaced. -/
theorem closestFrom_untimed (w : Instant) {o : Observation} (os : List Observation)
    (untimed : o.time.isPresent = false) : closestFrom w o os = o := by
  refine closestFrom_of_never fun p _ => Bool.eq_false_iff.2 fun nearer => ?_
  rw [(timed_of_closer nearer).2] at untimed
  cases untimed

/-- A range leaves no observation in front of the first one that it keeps. -/
theorem keptBy_eq_cons_iff {os : List Observation} :
    (∃ behind, keptBy r os = o :: behind) ↔ r.contains o.time = true ∧
      ∃ before behind, os = before ++ o :: behind ∧ ∀ p ∈ before, r.contains p.time = false := by
  rw [← List.head?_eq_some_iff, keptBy, List.head?_filter, List.find?_eq_some_iff_append]
  simp only [Bool.not_eq_eq_eq_not, Bool.not_true]

/-- What a range leaves is seen as an observation without a time if and only if this one stands
before all observations in the range and all others without a time. -/
theorem reduced_untimed_iff (ranged : Range.ofRequest range = .ok r)
    (read : wanted.instant = .ok w) (untimed : o.time.isPresent = false) :
    reduced s range wanted = .ok [o] ↔
      ∃ before behind, s.observations = before ++ o :: behind ∧
        ∀ p ∈ before, p.time.isPresent = true ∧ ¬ r.Holds p.time := by
  have ends := Range.bounded_of_ofRequest ranged
  have leftOut {p : Observation} :
      r.contains p.time = false ↔ p.time.isPresent = true ∧ ¬ r.Holds p.time := by
    rw [← Bool.not_eq_true, Range.contains_iff ends, not_or, Bool.not_eq_false]
  have first : reduced s range wanted = .ok [o] ↔
      ∃ behind, keptBy r s.observations = o :: behind := by
    rw [reduced_eq ranged read, Except.ok.injEq]
    cases keptBy r s.observations with
    | nil => exact iff_of_false nofun nofun
    | cons p os =>
        change [closestFrom w p os] = [o] ↔ _
        rw [List.singleton_inj]
        constructor
        · rintro rfl
          rw [isPresent_closestFrom] at untimed
          rw [closestFrom_untimed w os untimed]
          exact ⟨os, rfl⟩
        · rintro ⟨behind, same⟩
          obtain ⟨rfl, rfl⟩ := List.cons_eq_cons.1 same
          exact closestFrom_untimed w os untimed
  have kept : r.contains o.time = true := (Range.contains_iff ends).2 (.inl untimed)
  rw [first, keptBy_eq_cons_iff, and_iff_right kept]
  simp only [leftOut]

/-- What becomes of the observations without a time. -/
structure SeesUntimed (s : Station) (range : Option (List Given)) (r : Range) : Prop where
  /-- All of them are kept, besides the observations in the range. -/
  kept : ∃ kept, (inRange s range).result = .ok kept ∧ ∀ o, o ∈ kept.observations ↔
    o ∈ s.observations ∧ (o.time.isPresent = false ∨ r.Holds o.time)
  /-- One of them is found if and only if the first observation is one, and then it is that one. -/
  found : ∀ w o os, ∃ c, closest? w (o :: os) = some c ∧ c.time.isPresent = o.time.isPresent ∧
    (o.time.isPresent = false → c = o)
  /-- One of them is what is left of the station if and only if it stands before all observations in
  the range. -/
  seen : ∀ wanted w o, wanted.instant = .ok w → o.time.isPresent = false →
    (reduced s range wanted = .ok [o] ↔ ∃ before behind, s.observations = before ++ o :: behind ∧
      ∀ p ∈ before, p.time.isPresent = true ∧ ¬ r.Holds p.time)

theorem seesUntimed_of_ofRequest (ranged : Range.ofRequest range = .ok r) (s : Station) :
    SeesUntimed s range r where
  kept := ⟨_, result_inRange ranged, fun _ => mem_keptBy (Range.bounded_of_ofRequest ranged)⟩
  found w o os := ⟨_, rfl, isPresent_closestFrom w o os, closestFrom_untimed w os⟩
  seen _ _ _ read untimed := reduced_untimed_iff ranged read untimed

/-! ## A series that begins without a time -/

/-- A station whose first observation has no time. -/
def late : Station :=
  { name := "A", lat := 0, lon := 0
    observations := [⟨.missing, .empty⟩, ⟨⟨1704067200000000000⟩, .empty⟩] }

/-- The time of the other observation. -/
def newYear : Given := .value (.int 1704067200000000000)

/-- From that time on. -/
def onward : List Given := [newYear, .value .null]

theorem seesUntimed_of_ofRequest_late :
    ∃ r w, Range.ofRequest (some onward) = .ok r ∧ newYear.instant = .ok w ∧
      SeesUntimed late (some onward) r ∧
      reduced late (some onward) newYear = .ok [⟨.missing, .empty⟩] := by
  have ranged : Range.ofRequest (some onward) = .ok ⟨some ⟨1704067200000000000⟩, none⟩ := by rfl
  have read : newYear.instant = .ok ⟨1704067200000000000⟩ := by rfl
  have sees := seesUntimed_of_ofRequest ranged late
  have left := (sees.seen newYear _ ⟨.missing, .empty⟩ read (by decide)).2 ⟨[], _, rfl, nofun⟩
  exact ⟨_, _, ranged, read, sees, left⟩

/-- A range with an end leaves out the observations without a time. -/
def LeftOutByRange : Prop :=
  ∀ (s kept : Station) (ts : List Given) (r : Range), Range.ofGiven ts = .ok r →
    r.start.isSome ∨ r.stop.isSome → (inRange s (some ts)).result = .ok kept →
    ∀ o ∈ kept.observations, o.time.isPresent = true

/-- An observation without a time is found only where no other is. -/
def FoundOnlyAmongSuch : Prop :=
  ∀ (w : Instant) (os : List Observation) (c : Observation), w.isPresent = true →
    closest? w os = some c → c.time.isPresent = false → ∀ o ∈ os, o.time.isPresent = false

/-- Neither holds of a series that begins without a time. -/
theorem not_leavesOutUntimed : ¬ LeftOutByRange ∧ ¬ FoundOnlyAmongSuch := by
  have ranged : Range.ofGiven onward = .ok ⟨some ⟨1704067200000000000⟩, none⟩ := by rfl
  constructor
  · intro all
    have kept := all late _ onward _ ranged (.inl rfl) (result_inRange ranged)
    exact absurd kept (by decide)
  · intro all
    have found : closest? ⟨1704067200000000000⟩ late.observations = some ⟨.missing, .empty⟩ := by
      rfl
    have none := all _ _ _ (by decide) found (by decide)
    exact absurd none (by decide)

end Meteo.Temporal
