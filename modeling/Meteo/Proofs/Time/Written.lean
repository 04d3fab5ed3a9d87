/-
# Meteo.Proofs.Time.Written -- instants in responses read back, and their texts are in their order

A response writes an instant to the second.  A request that gives this text means the beginning
of that second, before 1970 as well (`Instant.instant_isoText`), and the texts of instants are in
the order of their seconds (`Instant.isoText_lt_iff`): all fields have their full number of
digits, so the first difference of two texts lies in the greatest part in which the times differ.
-/
import Meteo.Proofs.Time.RequestText

namespace Meteo.Time

set_option autoImplicit false

open Decimal

/-! ## The order of texts -/

namespace Date

variable {d e : Date}

/-- What begins with a date is in the order of the dates first. -/
theorem chars_append_lt_iff (valid : d.isValid = true) (valid' : e.isValid = true)
    (year : 1 ≤ d.year ∧ d.year ≤ 9999) (year' : 1 ≤ e.year ∧ e.year ≤ 9999)
    (cs ds : List Char) : d.chars ++ cs < e.chars ++ ds ↔ d.Earlier e ∨ d = e ∧ cs < ds := by
  have month := month_le valid
  have month' := month_le valid'
  have day := day_le valid
  have day' := day_le valid'
  have same : d = e ↔ d.year = e.year ∧ d.month = e.month ∧ d.day = e.day := by
    cases d
    cases e
    simp
  simp only [chars, List.append_assoc, List.cons_append, List.cons_lt_cons_iff,
    fixedDigits_append_lt_iff (show d.year.toNat < 10 ^ 4 by omega)
      (show e.year.toNat < 10 ^ 4 by omega),
    fixedDigits_append_lt_iff (show d.month < 10 ^ 2 by omega) (show e.month < 10 ^ 2 by omega),
    fixedDigits_append_lt_iff (show d.day < 10 ^ 2 by omega) (show e.day < 10 ^ 2 by omega),
    lt_irrefl, true_and, false_or]
  rw [same, Earlier]
  -- what stands behind only counts between equal dates
  by_cases less : cs < ds
  · simp only [less, and_true]
    omega
  · simp only [less, and_false, or_false]
    omega

end Date

namespace Clock

variable {c e : Clock}

/-- Times of day to the second are written in their order. -/
theorem chars_append_lt_iff (valid : c.isValid = true) (valid' : e.isValid = true)
    (whole : c.micro = 0) (whole' : e.micro = 0) (cs : List Char) :
    c.chars ++ cs < e.chars ++ cs ↔ c.micros < e.micros := by
  obtain ⟨hour, minute, second, -⟩ := isValid_iff.1 valid
  obtain ⟨hour', minute', second', -⟩ := isValid_iff.1 valid'
  simp only [chars, whole, whole', if_true, List.append_nil, List.append_assoc, List.cons_append,
    List.cons_lt_cons_iff,
    fixedDigits_append_lt_iff (show c.hour < 10 ^ 2 by omega) (show e.hour < 10 ^ 2 by omega),
    fixedDigits_append_lt_iff (show c.minute < 10 ^ 2 by omega) (show e.minute < 10 ^ 2 by omega),
    fixedDigits_append_lt_iff (show c.second < 10 ^ 2 by omega) (show e.second < 10 ^ 2 by omega),
    lt_irrefl, true_and, false_or, and_false, or_false]
  rw [micros_eq, micros_eq]
  omega

end Clock

namespace DateTime

variable {t u : DateTime}

theorem localMicros_lt_iff (time : t.IsTime) (time' : u.IsTime) :
    t.localMicros < u.localMicros ↔
      t.date.Earlier u.date ∨ t.date = u.date ∧ t.clock.micros < u.clock.micros := by
  have within := Clock.micros_lt time.clock
  have within' := Clock.micros_lt time'.clock
  rw [microsPerDay] at within within'
  rw [← Date.dayNumber_lt_iff time.date time'.date, ← Date.dayNumber_inj time.date time'.date,
    localMicros, localMicros, microsPerDay]
  omega

/-- The texts of times to the second in UTC are in the order of the times. -/
theorem text_append_lt_iff (time : t.IsTime) (time' : u.IsTime) (naive : t.offset = none)
    (naive' : u.offset = none) (whole : t.clock.micro = 0) (whole' : u.clock.micro = 0)
    (suffix : String) :
    t.text "T" ++ suffix < u.text "T" ++ suffix ↔ t.localMicros < u.localMicros := by
  have letters {v : DateTime} (time : v.IsTime) (naive : v.offset = none) :
      (v.text "T" ++ suffix).toList =
        v.date.chars ++ 'T' :: (v.clock.chars ++ suffix.toList) := by
    rw [String.toList_append, toList_text time, naive]
    simp
  rw [String.lt_iff_toList_lt, letters time naive, letters time' naive',
    Date.chars_append_lt_iff time.date time'.date time.year time'.year, List.cons_lt_cons_iff,
    Clock.chars_append_lt_iff time.clock time'.clock whole whole', localMicros_lt_iff time time']
  simp

end DateTime

/-! ## Instants -/

namespace Instant

variable {t u : Instant}

theorem utc_second (t : Instant) : t.second.utc = t.second := DateTime.utc_ofMicros _

section

variable (first : 1678 ≤ t.split.1.year) (last : t.split.1.year ≤ 2261)

include first last

/-- The seconds from the epoch in these years. -/
theorem second_bounds :
    -9214560000 ≤ t.nanos / nanosPerSecond ∧ t.nanos / nanosPerSecond < 9214646400 := by
  rw [← date_second] at first last
  have micros := (DateTime.year_ofMicros_iff _).1 ⟨first, last⟩
  omega

theorem isPresent_of_year : t.isPresent = true := by
  have bounds := second_bounds first last
  rw [nanosPerSecond] at bounds
  rw [isPresent_iff]
  omega

theorem isTime_second : t.second.IsTime := by
  rw [← date_second] at first last
  exact DateTime.isTime_ofMicros first last

theorem nanos_second : t.second.instant.nanos = t.nanos / nanosPerSecond * nanosPerSecond := by
  rw [← date_second] at first last
  rw [DateTime.nanos_instant (by rwa [utc_second]) (by rwa [utc_second]), second,
    DateTime.micros_ofMicros, nanosPerSecond]
  omega

theorem isPresent_second : t.second.instant.isPresent = true := by
  rw [← date_second] at first last
  exact DateTime.isPresent_instant (by rwa [utc_second]) (by rwa [utc_second])

/-- A request means by the text of an instant the beginning of its second. -/
theorem instant_isoText :
    (Given.value (.string t.isoText)).instant = .ok t.second.instant := by
  have blank : Text.IsBlankText "" := nofun
  have read := Given.ofRequestText_zulu (isTime_second first last) rfl blank blank
  rw [String.empty_append, String.append_empty, ← isoText_eq (isPresent_of_year first last)] at read
  exact Given.instant_of_raw? ((Given.raw?_string _).trans read) (isPresent_second first last)

theorem isoText_second : t.second.instant.isoText = t.isoText := by
  have same : t.second.instant.second = t.second := by
    rw [second, nanos_second first last, Int.mul_ediv_cancel _ (by decide), ← second]
  rw [isoText_eq (isPresent_second first last), same, isoText_eq (isPresent_of_year first last)]

end

/-- The texts of instants are in the order of their seconds. -/
theorem isoText_lt_iff (first : 1678 ≤ t.split.1.year) (last : t.split.1.year ≤ 2261)
    (first' : 1678 ≤ u.split.1.year) (last' : u.split.1.year ≤ 2261) :
    t.isoText < u.isoText ↔ t.nanos / nanosPerSecond < u.nanos / nanosPerSecond := by
  rw [isoText_eq (isPresent_of_year first last), isoText_eq (isPresent_of_year first' last'),
    DateTime.text_append_lt_iff (isTime_second first last) (isTime_second first' last') rfl rfl
      (micro_second t) (micro_second u), second, second, DateTime.localMicros_ofMicros,
    DateTime.localMicros_ofMicros]
  omega

/-- The text of an instant reads back as the instant rounded down to a second, which has the same
text, and later instants have later texts. -/
theorem isoText_reads_back (first : 1678 ≤ t.split.1.year) (last : t.split.1.year ≤ 2261) :
    (∃ s, (Given.value (.string t.isoText)).instant = .ok s ∧
        s.nanos = t.nanos / nanosPerSecond * nanosPerSecond ∧
        (nanosPerSecond ∣ t.nanos → s = t) ∧ s.isoText = t.isoText) ∧
      ∀ u : Instant, 1678 ≤ u.split.1.year → u.split.1.year ≤ 2261 → t.nanos ≤ u.nanos →
        t.isoText ≤ u.isoText := by
  have nanos := nanos_second first last
  refine ⟨⟨t.second.instant, instant_isoText first last, nanos, fun whole => ?_,
    isoText_second first last⟩, fun u first' last' le => ?_⟩
  · rw [← nanos_inj, nanos, Int.ediv_mul_cancel whole]
  · rw [← not_lt, isoText_lt_iff first' last' first last, not_lt]
    exact Int.ediv_le_ediv (by decide) le

/-- An instant before 1970 is rounded down as well. -/
theorem isoText_reads_back_before_epoch : ∃ s,
    (Given.value (.string "1969-12-31T23:59:59Z")).instant = .ok s ∧ s.nanos = -1000000000 := by
  have text : (ofNanos (-1)).isoText = "1969-12-31T23:59:59Z" := by decide
  obtain ⟨⟨s, read, nanos, -⟩, -⟩ := isoText_reads_back (t := ofNanos (-1)) (by decide) (by decide)
  rw [text] at read
  exact ⟨s, read, nanos⟩

end Instant

end Meteo.Time
