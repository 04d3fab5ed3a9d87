/-
# Meteo.Proofs.Time.Range -- the times that a range keeps

The ends of a range that a request gives are present (`isPresent_of_ofRequest`), and between
them the range keeps exactly the times from its start to its stop (`Range.Holds`).  The test is
one for what lies outside, and a missing time lies nowhere, so every range keeps it
(`contains_iff`).
-/
import Meteo.Proofs.Outcome
import Meteo.Proofs.Time.Instant
import Meteo.Time.Range

namespace Meteo.Time

set_option autoImplicit false

/-- An instant that a request means is present. -/
theorem Given.isPresent_of_instant {t : Given} {i : Instant} (read : t.instant = .ok i) :
    i.isPresent = true := by
  rw [Given.instant] at read
  cases raw : t.raw? with
  | none =>
      rw [raw] at read
      cases read
  | some j =>
      rw [raw] at read
      dsimp only at read
      split at read
      · next present =>
        cases read
        exact present
      · cases read

namespace Range

variable {r : Range} {t : Instant}

/-- A time lies in a range, both ends included. -/
structure Holds (r : Range) (t : Instant) : Prop where
  start : ∀ a ∈ r.start, a.nanos ≤ t.nanos
  stop : ∀ b ∈ r.stop, t.nanos ≤ b.nanos

/-- The ends of a range are present. -/
structure Bounded (r : Range) : Prop where
  start : ∀ a ∈ r.start, a.isPresent = true
  stop : ∀ b ∈ r.stop, b.isPresent = true

theorem isPresent_of_bound {t : Given} {b : Option Instant} (read : bound t = .ok b) :
    ∀ a ∈ b, a.isPresent = true := by
  intro a given
  unfold bound at read
  split at read
  · cases read
    cases given
  · obtain ⟨i, instant, rfl⟩ := Outcome.map_eq_ok.1 read
    cases given
    exact Given.isPresent_of_instant instant

theorem bounded_of_ofGiven {ts : List Given} (read : ofGiven ts = .ok r) : r.Bounded := by
  unfold ofGiven at read
  split at read
  · next a b =>
    obtain ⟨start, first, rest⟩ := Outcome.bind_eq_ok.1 read
    obtain ⟨stop, second, rest⟩ := Outcome.bind_eq_ok.1 rest
    have made : r = ⟨start, stop⟩ := by
      dsimp only at rest
      split at rest
      · split at rest
        · cases rest
        · cases rest
          rfl
      · cases rest
        rfl
    rw [made]
    exact ⟨isPresent_of_bound first, isPresent_of_bound second⟩
  · cases read

theorem bounded_of_ofRequest {ts : Option (List Given)} (read : ofRequest ts = .ok r) :
    r.Bounded := by
  cases ts with
  | none =>
      cases read
      exact ⟨nofun, nofun⟩
  | some ts => exact bounded_of_ofGiven read

theorem contains_eq_true : r.contains t = true ↔
    (∀ a ∈ r.start, t.lt a = false) ∧ ∀ b ∈ r.stop, b.lt t = false := by
  rw [contains, Bool.and_eq_true, Bool.not_eq_true', Bool.not_eq_true', Option.any_eq_false,
    Option.any_eq_false]
  simp

/-- A range keeps the times in it, and missing ones. -/
theorem contains_iff (ends : r.Bounded) :
    r.contains t = true ↔ t.isPresent = false ∨ r.Holds t := by
  rw [contains_eq_true]
  cases present : t.isPresent with
  | false =>
      refine iff_of_true ⟨fun a _ => ?_, fun b _ => ?_⟩ (.inl rfl)
      · rw [Instant.lt, present]
        rfl
      · rw [Instant.lt, present, Bool.and_false]
        rfl
  | true =>
      have notBefore {a : Instant} (given : a ∈ r.start) :
          t.lt a = false ↔ a.nanos ≤ t.nanos := by
        rw [← Bool.not_eq_true, Instant.lt_iff present (ends.start a given), not_lt]
      have notBehind {b : Instant} (given : b ∈ r.stop) :
          b.lt t = false ↔ t.nanos ≤ b.nanos := by
        rw [← Bool.not_eq_true, Instant.lt_iff (ends.stop b given) present, not_lt]
      rw [or_iff_right (by decide)]
      constructor
      · rintro ⟨start, stop⟩
        exact ⟨fun a given => (notBefore given).1 (start a given),
          fun b given => (notBehind given).1 (stop b given)⟩
      · rintro ⟨start, stop⟩
        exact ⟨fun a given => (notBefore given).2 (start a given),
          fun b given => (notBehind given).2 (stop b given)⟩

end Range

end Meteo.Time
