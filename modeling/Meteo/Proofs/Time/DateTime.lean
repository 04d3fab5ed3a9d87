/-
# Meteo.Proofs.Time.DateTime -- dates with a time of day as counts of microseconds

A date of the calendar with a time of day is a count of microseconds from the epoch, and every
count is that of a date and a time of day (`DateTime.ofMicros`, `localMicros_ofMicros`).  So a
time with an offset has a date and a time of day in UTC as well (`DateTime.utc`), which means the
same instant; the carries over hours, days, months and years are those of the calendar.

`DateTime.IsTime` says what a date with a time of day has to be for its texts to be times: a date
of the calendar whose year has four digits at most, a time of day that exists, and an offset of
whole seconds that is less than a day.
-/
import Meteo.Proofs.Time.Calendar
import Meteo.Proofs.Time.Instant
import Meteo.Time.DateTime

namespace Meteo.Time

set_option autoImplicit false

namespace Clock

variable {c : Clock}

theorem isValid_iff : c.isValid = true ↔
    c.hour < 24 ∧ c.minute < 60 ∧ c.second < 60 ∧ c.micro < 1000000 := by
  simp [isValid, and_assoc]

theorem micros_eq (c : Clock) :
    c.micros = (c.hour * 3600 + c.minute * 60 + c.second) * 1000000 + c.micro := rfl

theorem micros_lt (valid : c.isValid = true) : c.micros < microsPerDay := by
  have parts := isValid_iff.1 valid
  rw [micros_eq, microsPerDay]
  omega

/-- The time of day so many microseconds after midnight. -/
def ofMicros (n : Nat) : Clock :=
  ⟨n / 3600000000, n / 60000000 % 60, n / 1000000 % 60, n % 1000000⟩

@[simp] theorem micros_ofMicros (n : Nat) : (ofMicros n).micros = n := by
  rw [micros_eq, ofMicros]
  dsimp only
  omega

theorem isValid_ofMicros {n : Nat} (within : n < microsPerDay) : (ofMicros n).isValid = true := by
  rw [microsPerDay] at within
  rw [isValid_iff, ofMicros]
  dsimp only
  omega

end Clock

namespace DateTime

variable {t : DateTime}

/-- A date of the calendar in the years 1 to 9999, a time of day that exists, and an offset of
whole seconds that is less than a day. -/
structure IsTime (t : DateTime) : Prop where
  date : t.date.isValid = true
  year : 1 ≤ t.date.year ∧ t.date.year ≤ 9999
  clock : t.clock.isValid = true
  offset : ∀ o ∈ t.offset, ∃ seconds : ℤ, o = seconds * 1000000 ∧ seconds.natAbs < 86400

/-- No offset is the offset zero. -/
theorem instant_of_offset {o : Option ℤ} (same : o.getD 0 = t.offset.getD 0) :
    ({ t with offset := o } : DateTime).instant = t.instant := by
  rw [instant, instant, micros, micros, same]
  rfl

/-- The years 1 to 9999 in microseconds. -/
theorem localMicros_bounds (time : t.IsTime) :
    -62135596800000000 ≤ t.localMicros ∧ t.localMicros < 253402300800000000 := by
  have start : daysBefore 1 - epochDay = -719162 := by decide
  have stop : daysBefore (9999 + 1) - epochDay = 2932897 := by decide
  have days := (Date.year_between_iff time.date 1 9999).1 time.year
  have within := Clock.micros_lt time.clock
  rw [start, stop] at days
  rw [microsPerDay] at within
  rw [localMicros, microsPerDay]
  omega

/-- The date and the time of day so many microseconds from the epoch, in UTC. -/
def ofMicros (n : ℤ) : DateTime :=
  ⟨Date.ofDayNumber (n / microsPerDay), Clock.ofMicros (n % microsPerDay).toNat, none⟩

/-- The date and the time of day in UTC. -/
def utc (t : DateTime) : DateTime := ofMicros t.micros

theorem toNat_emod_lt (n : ℤ) : (n % microsPerDay).toNat < microsPerDay := by
  have size := Int.emod_lt_of_pos n (show 0 < microsPerDay by decide)
  have sign := Int.emod_nonneg n (show microsPerDay ≠ 0 by decide)
  omega

theorem isValid_date_ofMicros (n : ℤ) : (ofMicros n).date.isValid = true :=
  Date.isValid_ofDayNumber _

theorem isValid_clock_ofMicros (n : ℤ) : (ofMicros n).clock.isValid = true :=
  Clock.isValid_ofMicros (toNat_emod_lt n)

@[simp] theorem localMicros_ofMicros (n : ℤ) : (ofMicros n).localMicros = n := by
  have sign := Int.emod_nonneg n (show microsPerDay ≠ 0 by decide)
  rw [localMicros, ofMicros, Date.dayNumber_ofDayNumber, Clock.micros_ofMicros,
    Int.toNat_of_nonneg sign, Int.ediv_mul_add_emod]

@[simp] theorem micros_ofMicros (n : ℤ) : (ofMicros n).micros = n := by
  rw [micros, localMicros_ofMicros]
  exact Int.sub_zero n

theorem micros_utc (t : DateTime) : t.utc.micros = t.micros := micros_ofMicros _

@[simp] theorem utc_ofMicros (n : ℤ) : (ofMicros n).utc = ofMicros n := by
  rw [utc, micros_ofMicros]

/-- The years 1678 to 2261 in microseconds. -/
theorem year_ofMicros_iff (n : ℤ) :
    1678 ≤ (ofMicros n).date.year ∧ (ofMicros n).date.year ≤ 2261 ↔
      -9214560000000000 ≤ n ∧ n < 9214646400000000 := by
  have start : daysBefore 1678 - epochDay = -106650 := by decide
  have stop : daysBefore (2261 + 1) - epochDay = 106651 := by decide
  rw [Date.year_between_iff (isValid_date_ofMicros n), start, stop, ofMicros,
    Date.dayNumber_ofDayNumber, microsPerDay]
  omega

theorem isTime_ofMicros {n : ℤ} (first : 1678 ≤ (ofMicros n).date.year)
    (last : (ofMicros n).date.year ≤ 2261) : (ofMicros n).IsTime :=
  ⟨isValid_date_ofMicros n, by omega, isValid_clock_ofMicros n, nofun⟩

section

variable (first : 1678 ≤ t.utc.date.year) (last : t.utc.date.year ≤ 2261)

include first last

/-- The nanoseconds of these years fit into 64 bits. -/
theorem nanos_instant : t.instant.nanos = t.micros * 1000 := by
  have bounds := (year_ofMicros_iff t.micros).1 ⟨first, last⟩
  exact Instant.nanos_ofNanos (by omega) (by omega)

theorem isPresent_instant : t.instant.isPresent = true := by
  have bounds := (year_ofMicros_iff t.micros).1 ⟨first, last⟩
  rw [Instant.isPresent_iff, nanos_instant first last]
  omega

end

end DateTime

end Meteo.Time
