/-
# Meteo.Proofs.Station.Reduction -- the closest observation in a range

A station is restricted to a range first, and the closest observation is sought among those it
keeps (`reduced`).  So what is found lies in the range, however near one outside of it may be,
and nothing is found if and only if nothing lies in the range.

In whichever order the observations come, one at the same time is found, as long as their
distances can be told (`foundAlike_of_near`).  The one distance that fits in 64 bits and cannot
be told is that of an observation 2^63 nanoseconds before the wanted instant.  Such an
observation is found where it comes first, and only there (`reduced_in_range`,
`not_ignoresOrder`).
-/
import Meteo.Proofs.Station.Closest
import Meteo.Proofs.Time.Range

namespace Meteo.Temporal

set_option autoImplicit false

open Time

/-- What a station is reduced to: of its observations in a range, the one closest to an instant. -/
def reduced (s : Station) (range : Option (List Given)) (wanted : Given) :
    Except Error (List Observation) := do
  let kept ← (inRange s range).result
  return (← ClosestView.ofGiven kept wanted).observations

/-- The observations that a range keeps. -/
def keptBy (r : Range) (os : List Observation) : List Observation :=
  os.filter fun o => r.contains o.time

section

variable {s : Station} {range : Option (List Given)} {wanted : Given} {r : Range} {w : Instant}
  {os others : List Observation} {o p c d : Observation}

theorem result_inRange (ranged : Range.ofRequest range = .ok r) :
    (inRange s range).result = .ok { s with observations := keptBy r s.observations } := by
  rw [Times.result_inRange, ranged]
  rfl

theorem reduced_eq (ranged : Range.ofRequest range = .ok r) (read : wanted.instant = .ok w) :
    reduced s range wanted = .ok (closest? w (keptBy r s.observations)).toList := by
  rw [reduced, result_inRange ranged]
  change (ClosestView.ofGiven _ wanted >>= _) = _
  rw [ClosestView.ofGiven, read]
  rfl

/-- The one answer there is. -/
theorem eq_closest?_of_reduced {chosen : Option Observation}
    (ranged : Range.ofRequest range = .ok r) (read : wanted.instant = .ok w)
    (result : reduced s range wanted = .ok chosen.toList) :
    chosen = closest? w (keptBy r s.observations) := by
  rw [reduced_eq ranged read] at result
  have same := congrArg List.head? (Except.ok.inj result)
  rw [Option.head?_toList, Option.head?_toList] at same
  exact same.symm

theorem closest?_eq_none_iff : closest? w os = none ↔ os = [] := by
  cases os with
  | nil => exact iff_of_true rfl rfl
  | cons o os => exact iff_of_false nofun nofun

theorem mem_of_closest? (found : closest? w os = some c) : c ∈ os := by
  cases os with
  | nil => cases found
  | cons o os =>
      cases found
      exact closestFrom_mem w o os

theorem time_eq_of_exactly (same : exactly w c = exactly w d) : c.time = d.time := by
  rw [exactly, exactly, toLex_inj, Prod.mk.injEq, Instant.nanos_inj] at same
  exact same.2

theorem mem_keptBy (ends : r.Bounded) :
    o ∈ keptBy r os ↔ o ∈ os ∧ (o.time.isPresent = false ∨ r.Holds o.time) := by
  rw [keptBy, List.mem_filter, Range.contains_iff ends]

theorem mem_keptBy_of_timed (ends : r.Bounded) (timed : ∀ o ∈ os, o.time.isPresent = true) :
    o ∈ keptBy r os ↔ o ∈ os ∧ r.Holds o.time := by
  rw [mem_keptBy ends]
  refine and_congr_right fun member => ?_
  rw [timed o member, or_iff_right (by decide)]

/-- In whichever order observations come, what is found is at the same time. -/
def FoundAlike (w : Instant) (os : List Observation) : Prop :=
  ∀ others : List Observation, others.Perm os →
    (closest? w others).map Observation.time = (closest? w os).map Observation.time

section

variable (known : w.isPresent = true) (timed : ∀ q ∈ os, q.time.isPresent = true)

include known timed

/-- The least distance and the earliest time at it do not depend on the order, as long as all
distances can be told. -/
theorem foundAlike_of_near (near : ∀ q ∈ os, |q.time.nanos - w.nanos| < 2 ^ 63) :
    FoundAlike w os := by
  intro others perm
  cases os with
  | nil =>
      rw [perm.eq_nil]
  | cons o os =>
      cases others with
      | nil => exact absurd perm.nil_eq nofun
      | cons p others =>
          have first := closestFrom_exactly known timed near
          have second : FirstLeast (exactly w) (p :: others) (closestFrom w p others) :=
            closestFrom_exactly known (fun q member => timed q (perm.mem_iff.1 member))
              fun q member => near q (perm.mem_iff.1 member)
          exact congrArg some (time_eq_of_exactly (second.key_eq_of_perm first perm))

/-- As long as the order does not matter, all are at the time of one half a circle away: in front it
is found, and behind a nearer one it is not. -/
theorem time_eq_of_opposite (alike : FoundAlike w os) (member : o ∈ os) (member' : p ∈ os)
    (opposite : o.time.arc w = 2 ^ 63) : p.time = o.time := by
  obtain ⟨before, behind, split⟩ := List.append_of_mem member
  obtain ⟨before', behind', split'⟩ := List.append_of_mem member'
  have front : (o :: (before ++ behind)).Perm os := split ▸ List.perm_middle.symm
  have front' : (p :: (before' ++ behind')).Perm os := split' ▸ List.perm_middle.symm
  have timed' : ∀ q ∈ p :: (before' ++ behind'), q.time.isPresent = true :=
    fun q listed => timed q (front'.mem_iff.1 listed)
  have stays : closestFrom w o (before ++ behind) = o :=
    closestFrom_of_opposite known (fun q listed => timed q (front.mem_iff.1 listed)) opposite
  have alike' : some (closestFrom w p (before' ++ behind')).time =
      some (closestFrom w o (before ++ behind)).time :=
    (alike _ front').trans (alike _ front).symm
  have found : (closestFrom w p (before' ++ behind')).time = o.time := by
    rw [Option.some.inj alike', stays]
  rcases lt_or_eq_of_le (Instant.arc_le p.time w) with near | opposite'
  · have least := (closestFrom_around known timed' near).le List.mem_cons_self
    have nearer := arc_le_of_around_le least
    rw [found, opposite] at nearer
    omega
  · rwa [closestFrom_of_opposite known timed' opposite'] at found

/-- The order of the observations does not matter if and only if each one that is 2^63 nanoseconds
before the wanted instant is at the time of all of them. -/
theorem foundAlike_iff (fits : ∀ q ∈ os,
      -2 ^ 63 ≤ q.time.nanos - w.nanos ∧ q.time.nanos - w.nanos < 2 ^ 63) :
    FoundAlike w os ↔
      ∀ o ∈ os, ∀ p ∈ os, o.time.nanos - w.nanos = -2 ^ 63 → p.time = o.time := by
  constructor
  · intro alike o member p member' before
    have opposite : o.time.arc w = 2 ^ 63 := by
      rw [Instant.arc_of_near, before]
      · rfl
      · rw [before]
        decide
    exact time_eq_of_opposite known timed alike member member' opposite
  · intro level others perm
    by_cases reaches : ∃ o ∈ os, o.time.nanos - w.nanos = -2 ^ 63
    · obtain ⟨o, member, before⟩ := reaches
      have times {others : List Observation} (perm : others.Perm os) :
          (closest? w others).map Observation.time = some o.time := by
        cases found : closest? w others with
        | none =>
            rw [closest?_eq_none_iff] at found
            cases found
            exact absurd (perm.mem_iff.2 member) nofun
        | some c =>
            have listed := perm.mem_iff.1 (mem_of_closest? found)
            exact congrArg some (level o member c listed before)
      rw [times perm, times (.refl os)]
    · refine foundAlike_of_near known timed (fun q member => ?_) others perm
      have within := fits q member
      have notBefore : q.time.nanos - w.nanos ≠ -2 ^ 63 := fun before => reaches ⟨q, member, before⟩
      rw [abs_lt]
      omega

end

/-- What is found in any order of the observations is at the time of what is found in theirs, and is
the same observation if all of them are at different times. -/
def SameInEveryOrder (s : Station) (range : Option (List Given)) (wanted : Given)
    (chosen : Option Observation) : Prop :=
  ∀ others : List Observation, others.Perm s.observations → ∃ chosen' : Option Observation,
    reduced { s with observations := others } range wanted = .ok chosen'.toList ∧
      chosen'.map Observation.time = chosen.map Observation.time ∧
      ((s.observations.map Observation.time).Nodup → chosen' = chosen)

/-- Every order of the kept observations is one of those of all observations. -/
theorem sameInEveryOrder_iff (ranged : Range.ofRequest range = .ok r)
    (read : wanted.instant = .ok w) :
    SameInEveryOrder s range wanted (closest? w (keptBy r s.observations)) ↔
      FoundAlike w (keptBy r s.observations) := by
  constructor
  · intro same others perm
    let dropped := s.observations.filter fun o => !r.contains o.time
    have all : (others ++ dropped).Perm s.observations :=
      (perm.append_right dropped).trans (List.filter_append_perm _ _)
    have kept : keptBy r (others ++ dropped) = others := by
      rw [keptBy, List.filter_append, List.filter_eq_self.2, List.filter_eq_nil_iff.2,
        List.append_nil]
      · intro o member
        simpa using (List.mem_filter.1 member).2
      · intro o member
        exact (List.mem_filter.1 (perm.mem_iff.1 member)).2
    obtain ⟨chosen', result, times, -⟩ := same _ all
    have found := eq_closest?_of_reduced ranged read result
    rw [kept] at found
    rwa [← found]
  · intro alike others perm
    have times := alike (keptBy r others) (perm.filter _)
    refine ⟨_, reduced_eq ranged read, times, fun distinct => ?_⟩
    cases found : closest? w (keptBy r s.observations) with
    | none =>
        rw [found] at times
        exact Option.map_eq_none_iff.1 times
    | some c =>
        rw [found] at times
        obtain ⟨d, found', time⟩ := Option.map_eq_some_iff.1 times
        have listed : c ∈ s.observations := List.mem_of_mem_filter (mem_of_closest? found)
        have listed' : d ∈ s.observations :=
          perm.mem_iff.1 (List.mem_of_mem_filter (mem_of_closest? found'))
        rw [found', List.inj_on_of_nodup_map distinct listed' listed time]

/-- What is found is an observation in the range, and nothing is found only if there is none.  The
order of the observations does not matter if and only if no observation in the range is 2^63
nanoseconds before the wanted instant while another one in the range is at another time. -/
theorem reduced_in_range (ranged : Range.ofRequest range = .ok r) (read : wanted.instant = .ok w)
    (timed : ∀ o ∈ s.observations, o.time.isPresent = true)
    (fits : ∀ o ∈ s.observations,
      -2 ^ 63 ≤ o.time.nanos - w.nanos ∧ o.time.nanos - w.nanos < 2 ^ 63) :
    ∃ chosen : Option Observation, reduced s range wanted = .ok chosen.toList ∧
      (chosen = none ↔ ∀ o ∈ s.observations, ¬ r.Holds o.time) ∧
      (∀ c ∈ chosen, c ∈ s.observations ∧ r.Holds c.time) ∧
      (SameInEveryOrder s range wanted chosen ↔
        ∀ o ∈ s.observations, ∀ p ∈ s.observations, r.Holds o.time → r.Holds p.time →
          o.time.nanos - w.nanos = -2 ^ 63 → p.time = o.time) := by
  have ends := Range.bounded_of_ofRequest ranged
  have known := Given.isPresent_of_instant read
  have kept {o : Observation} : o ∈ keptBy r s.observations ↔ o ∈ s.observations ∧ r.Holds o.time :=
    mem_keptBy_of_timed ends timed
  refine ⟨_, reduced_eq ranged read, ?_, fun c found => kept.1 (mem_of_closest? found), ?_⟩
  · rw [closest?_eq_none_iff, List.eq_nil_iff_forall_not_mem]
    simp only [kept, not_and]
  · rw [sameInEveryOrder_iff ranged read,
      foundAlike_iff known (fun o member => timed o (kept.1 member).1)
        fun o member => fits o (kept.1 member).1]
    simp only [kept]
    constructor
    · intro level o listed p listed' inside inside'
      exact level o ⟨listed, inside⟩ p ⟨listed', inside'⟩
    · rintro level o ⟨listed, inside⟩ p ⟨listed', inside'⟩
      exact level o listed p listed' inside inside'

end

/-! ## Three days, and half a circle -/

/-- A station with three days in a row, the middle one in front. -/
def threeDays : Station :=
  { name := "A", lat := 0, lon := 0
    observations := [⟨⟨1704153600000000000⟩, .empty⟩, ⟨⟨1704067200000000000⟩, .empty⟩,
      ⟨⟨1704240000000000000⟩, .empty⟩] }

/-- The first two of the days. -/
def firstDays : List Given :=
  [.value (.int 1704067200000000000), .value (.int 1704153600000000000)]

/-- An hour of the last day. -/
def lastDay : Given := .value (.int 1704243600000000000)

theorem reduced_in_range_days :
    ∃ r w, Range.ofRequest (some firstDays) = .ok r ∧ lastDay.instant = .ok w ∧
      (∀ o ∈ threeDays.observations, o.time.isPresent = true) ∧
      (∀ o ∈ threeDays.observations,
        -2 ^ 63 ≤ o.time.nanos - w.nanos ∧ o.time.nanos - w.nanos < 2 ^ 63) ∧
      ∃ chosen : Option Observation,
        reduced threeDays (some firstDays) lastDay = .ok chosen.toList ∧
        (chosen = none ↔ ∀ o ∈ threeDays.observations, ¬ r.Holds o.time) ∧
        (∀ c ∈ chosen, c ∈ threeDays.observations ∧ r.Holds c.time) ∧
        (SameInEveryOrder threeDays (some firstDays) lastDay chosen ↔
          ∀ o ∈ threeDays.observations, ∀ p ∈ threeDays.observations,
            r.Holds o.time → r.Holds p.time →
              o.time.nanos - w.nanos = -2 ^ 63 → p.time = o.time) := by
  have ranged : Range.ofRequest (some firstDays) =
      .ok ⟨some ⟨1704067200000000000⟩, some ⟨1704153600000000000⟩⟩ := by rfl
  have read : lastDay.instant = .ok ⟨1704243600000000000⟩ := by rfl
  have timed : ∀ o ∈ threeDays.observations, o.time.isPresent = true := by decide
  have fits : ∀ o ∈ threeDays.observations,
      -2 ^ 63 ≤ o.time.nanos - (⟨1704243600000000000⟩ : Instant).nanos ∧
        o.time.nanos - (⟨1704243600000000000⟩ : Instant).nanos < 2 ^ 63 := by decide
  exact ⟨_, _, ranged, read, timed, fits, reduced_in_range ranged read timed fits⟩

/-- The order of the observations does not matter as long as the differences to the wanted instant
fit in 64 bits. -/
def IgnoresOrder : Prop :=
  ∀ (s : Station) (range : Option (List Given)) (wanted : Given) (r : Range) (w : Instant),
    Range.ofRequest range = .ok r → wanted.instant = .ok w →
    (∀ o ∈ s.observations, o.time.isPresent = true) →
    (∀ o ∈ s.observations,
      -2 ^ 63 ≤ o.time.nanos - w.nanos ∧ o.time.nanos - w.nanos < 2 ^ 63) →
    ∃ chosen : Option Observation, reduced s range wanted = .ok chosen.toList ∧
      SameInEveryOrder s range wanted chosen

/-- Two observations half a circle apart. -/
def apart : List Observation :=
  [⟨⟨-4611686018427387904⟩, .empty⟩, ⟨⟨4611686018427387904⟩, .empty⟩]

/-- At the time of the later one, whichever of the two comes first is the one that is found. -/
theorem not_ignoresOrder : ¬ IgnoresOrder := by
  intro all
  let wanted : Given := .value (.int 4611686018427387904)
  let s : Station := { name := "A", lat := 0, lon := 0, observations := apart }
  have read : wanted.instant = .ok ⟨4611686018427387904⟩ := by rfl
  obtain ⟨chosen, result, same⟩ := all s none wanted _ _ rfl read (by decide) (by decide)
  obtain ⟨chosen', result', times, -⟩ := same apart.reverse apart.reverse_perm
  rw [eq_closest?_of_reduced rfl read result, eq_closest?_of_reduced rfl read result'] at times
  exact absurd times (by decide)

end Meteo.Temporal
