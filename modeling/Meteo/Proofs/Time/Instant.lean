/-
# Meteo.Proofs.Time.Instant -- the order of instants, and their distances

Instants that are present are in the order of their nanoseconds (`lt_iff`).  The distance of
two of them is a count of 64 bits, and these counts lie on a circle, so the distance is the
shorter way around (`arc`): up to half a circle it is the difference of the nanoseconds
(`arc_of_near`), and from there on it decreases again.  Two instants exactly half a circle
apart have no distance, since the count for it is the one that stands for a missing distance
(`isPresent_since`).  So distances are compared as the ways around are, except that nothing is
less than half a circle, or as long (`abs_since_lt_iff`, `abs_since_eq_iff`).
-/
import Mathlib
import Meteo.Time.Instant

namespace Meteo.Time

set_option autoImplicit false

namespace Instant

variable {t u w : Instant}

theorem nanos_inj : t.nanos = u.nanos ↔ t = u := by
  constructor
  · intro same
    exact congrArg Instant.mk (Int64.toInt_inj.1 same)
  · rintro rfl
    rfl

theorem isPresent_iff : t.isPresent = true ↔ -2 ^ 63 < t.nanos := by
  have least := Int64.le_toInt t.count
  have missing : t.count = missingCount ↔ t.count.toInt = -2 ^ 63 := by
    rw [← Int64.toInt_inj, missingCount, Int64.toInt_minValue]
  rw [isPresent, bne_iff_ne, Ne, missing, nanos]
  omega

theorem nanos_lt (t : Instant) : t.nanos < 2 ^ 63 := Int64.toInt_lt t.count

theorem nanos_ofNanos {n : ℤ} (first : -2 ^ 63 ≤ n) (last : n < 2 ^ 63) : (ofNanos n).nanos = n :=
  Int64.toInt_ofInt_of_le first last

section

variable (first : t.isPresent = true) (second : u.isPresent = true)

include first second

theorem lt_iff : t.lt u = true ↔ t.nanos < u.nanos := by
  rw [lt, first, second, Bool.true_and, Bool.true_and, decide_eq_true_eq, Int64.lt_iff_toInt_lt]
  rfl

theorem eq_iff : t.eq u = true ↔ t.nanos = u.nanos := by
  rw [eq, first, second, Bool.true_and, Bool.true_and, beq_iff_eq, ← Int64.toInt_inj]
  rfl

end

/-! ## Distances -/

/-- The nanoseconds between two instants the shorter way around the circle of all counts. -/
def arc (t w : Instant) : ℤ := min |t.nanos - w.nanos| (2 ^ 64 - |t.nanos - w.nanos|)

theorem arc_le (t w : Instant) : arc t w ≤ 2 ^ 63 := by
  rw [arc]
  omega

/-- Up to half a circle there is no shorter way. -/
theorem arc_of_near (near : |t.nanos - w.nanos| ≤ 2 ^ 63) : arc t w = |t.nanos - w.nanos| := by
  rw [arc]
  omega

section

variable (present : t.isPresent = true) (known : w.isPresent = true)

include present known

theorem toInt_since : (t.since w).count.toInt = (t.nanos - w.nanos).bmod (2 ^ 64) := by
  rw [since, present, known]
  exact Int64.toInt_sub _ _

/-- What is left of a difference is the shorter way around. -/
theorem abs_toInt_since : |(t.since w).count.toInt| = arc t w := by
  have low := isPresent_iff.1 present
  have low' := isPresent_iff.1 known
  have high := t.nanos_lt
  have high' := w.nanos_lt
  rw [toInt_since present known, arc, Int.bmod_def]
  rcases abs_cases (t.nanos - w.nanos) with ⟨size, sign⟩ | ⟨size, sign⟩
  · rw [size]
    split_ifs with half
    · rw [abs_of_nonneg (by omega)]
      omega
    · rw [abs_of_neg (by omega)]
      omega
  · rw [size]
    split_ifs with half
    · rw [abs_of_nonneg (by omega)]
      omega
    · rw [abs_of_neg (by omega)]
      omega

end

end Instant

namespace Span

theorem isPresent_iff (d : Span) : d.isPresent = true ↔ d.count.toInt ≠ -2 ^ 63 := by
  rw [isPresent, bne_iff_ne, Ne, ← Int64.toInt_inj, missingCount, Int64.toInt_minValue]

/-- A distance that is missing has no opposite and stays missing. -/
theorem abs_missing : missing.abs = missing := by decide

theorem toInt_abs {d : Span} (present : d.isPresent = true) :
    d.abs.count.toInt = |d.count.toInt| := by
  have least := Int64.le_toInt d.count
  have counted := d.isPresent_iff.1 present
  rw [abs]
  split
  · next negative =>
    rw [Int64.lt_iff_toInt_lt, Int64.toInt_zero] at negative
    rw [abs_of_neg negative, Int64.toInt_neg, Int.bmod_eq_of_le]
    · omega
    · omega
  · next positive =>
    rw [Int64.lt_iff_toInt_lt, Int64.toInt_zero] at positive
    rw [abs_of_nonneg (by omega)]

theorem isPresent_abs (d : Span) : d.abs.isPresent = d.isPresent := by
  cases present : d.isPresent with
  | true =>
      rw [isPresent_iff, toInt_abs present]
      have := abs_nonneg d.count.toInt
      omega
  | false =>
      have none : d.count = missingCount := by simpa [isPresent] using present
      have same : d = missing := congrArg Span.mk none
      rw [same, abs_missing]
      rfl

end Span

namespace Instant

variable {t u w : Instant} (present : t.isPresent = true) (present' : u.isPresent = true)
  (known : w.isPresent = true)

include present known in
/-- Half a circle apart there is no distance. -/
theorem isPresent_since : (t.since w).isPresent = true ↔ arc t w < 2 ^ 63 := by
  have least := Int64.le_toInt (t.since w).count
  have most := Int64.toInt_lt (t.since w).count
  rw [Span.isPresent_iff, ← abs_toInt_since present known, abs_lt]
  omega

include present known in
theorem toInt_abs_since (near : arc t w < 2 ^ 63) : (t.since w).abs.count.toInt = arc t w := by
  rw [Span.toInt_abs ((isPresent_since present known).2 near), abs_toInt_since present known]

include present present' known

/-- Distances are in the order of the shorter ways around, those of half a circle apart. -/
theorem abs_since_lt_iff :
    (t.since w).abs.lt (u.since w).abs = true ↔ arc t w < arc u w ∧ arc u w < 2 ^ 63 := by
  rw [Span.lt, Span.isPresent_abs, Span.isPresent_abs, Bool.and_eq_true, Bool.and_eq_true,
    isPresent_since present known, isPresent_since present' known, decide_eq_true_eq,
    Int64.lt_iff_toInt_lt]
  constructor
  · rintro ⟨⟨near, near'⟩, less⟩
    rw [toInt_abs_since present known near, toInt_abs_since present' known near'] at less
    exact ⟨less, near'⟩
  · rintro ⟨less, near'⟩
    have near := less.trans near'
    rw [toInt_abs_since present known near, toInt_abs_since present' known near']
    exact ⟨⟨near, near'⟩, less⟩

theorem abs_since_eq_iff :
    (t.since w).abs.eq (u.since w).abs = true ↔ arc t w = arc u w ∧ arc u w < 2 ^ 63 := by
  rw [Span.eq, Span.isPresent_abs, Span.isPresent_abs, Bool.and_eq_true, Bool.and_eq_true,
    isPresent_since present known, isPresent_since present' known, beq_iff_eq, ← Int64.toInt_inj]
  constructor
  · rintro ⟨⟨near, near'⟩, same⟩
    rw [toInt_abs_since present known near, toInt_abs_since present' known near'] at same
    exact ⟨same, near'⟩
  · rintro ⟨same, near'⟩
    have near := same.trans_lt near'
    rw [toInt_abs_since present known near, toInt_abs_since present' known near']
    exact ⟨⟨near, near'⟩, same⟩

end Instant

end Meteo.Time
