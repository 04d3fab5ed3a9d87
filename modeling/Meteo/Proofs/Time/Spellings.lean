/-
# Meteo.Proofs.Time.Spellings -- all spellings of a time are the same instant

A caller may give a time as a date with a time of day and perhaps an offset, as the text of it,
with white space around it and with a `Z` for the offset zero, or as a count of microseconds in
UTC (`DateTime.Spelling`).  A request means the same instant by all of them, and that is the one
so many nanoseconds after 1970-01-01 as the days of the calendar, the time of day and the offset
make up (`DateTime.instant_of_spelling`).  The years are those whose instants have a count.
-/
import Meteo.Proofs.Time.StoredText

namespace Meteo.Time.DateTime

set_option autoImplicit false

open Text

/-- The forms in which a caller may give a time. -/
inductive Spelling (t : DateTime) : Given → Prop
  | parts : Spelling t (.dateTime t)
  | text {before behind : String} : IsBlankText before → IsBlankText behind →
      Spelling t (.value (.string (before ++ t.text "T" ++ behind)))
  | zulu {before behind : String} : t.offset = some 0 →
      IsBlankText before → IsBlankText behind →
      Spelling t (.value (.string
        (before ++ (({ t with offset := none } : DateTime).text "T" ++ "Z") ++ behind)))
  | count : Spelling t (.stamp (Stamp.ofDateTime t.utc))

variable {t : DateTime}

/-- Without the refusal of missing times, a request means the instant of the time. -/
theorem raw?_of_spelling (time : t.IsTime) {g : Given} (spelling : t.Spelling g) :
    g.raw? = some t.instant := by
  cases spelling with
  | parts => rfl
  | text front back => rw [Given.raw?_string, Given.ofRequestText_text time front back]
  | zulu zero front back =>
      have naive : ({ t with offset := none } : DateTime).IsTime :=
        ⟨time.date, time.year, time.clock, nofun⟩
      rw [Given.raw?_string, Given.ofRequestText_zulu naive rfl front back,
        instant_of_offset (by rw [zero]; rfl)]
  | count =>
      have same : t.utc.instant = t.instant := by
        rw [instant, instant, micros_utc]
      rw [Given.raw?, Stamp.instant_ofDateTime rfl, same]

/-- All spellings of a time mean the instant that the calendar, the time of day and the offset
make up, and the count of microseconds is what reading the time in UTC gives. -/
theorem instant_of_spelling (time : t.IsTime) (first : 1678 ≤ t.utc.date.year)
    (last : t.utc.date.year ≤ 2261) :
    Stamp.read? ⟨1, .micro⟩ (t.utc.text "T") = some (Stamp.ofDateTime t.utc) ∧
      t.date.Counted t.date.dayNumber ∧
      ∃ i : Instant, i.nanos = ((t.date.dayNumber * 86400 + t.clock.seconds) * 1000000 +
          t.clock.micro - t.offset.getD 0) * 1000 ∧
        ∀ g, t.Spelling g → g.instant = .ok i := by
  refine ⟨Stamp.read?_text (isTime_ofMicros first last) rfl,
    Date.counted_iff.2 ⟨time.date, rfl⟩, t.instant, ?_, fun g spelling =>
    Given.instant_of_raw? (raw?_of_spelling time spelling) (isPresent_instant first last)⟩
  rw [nanos_instant first last, micros, localMicros, Clock.micros, microsPerDay]
  push_cast
  ring

/-- An offset of hours, minutes and seconds leads back across the beginning of a month to a leap
day before 1970. -/
theorem instant_of_spelling_leap_day : ∃ i : Instant, i.nanos = -57993329876544000 ∧
    (Given.value (.string " 1968-03-01T00:30:00.123456+05:45:30\n")).instant = .ok i := by
  let t : DateTime := ⟨⟨1968, 3, 1⟩, ⟨0, 30, 0, 123456⟩, some 20730000000⟩
  have time : t.IsTime :=
    ⟨by decide, by decide, by decide,
      fun o given => ⟨20730, (Option.some.inj given).symm, by decide⟩⟩
  have blank : IsBlankText " " := by simp [IsBlankText, isBlank]
  have line : IsBlankText "\n" := by simp [IsBlankText, isBlank]
  have written : " 1968-03-01T00:30:00.123456+05:45:30\n" = " " ++ t.text "T" ++ "\n" := by decide
  obtain ⟨-, -, i, nanos, read⟩ := instant_of_spelling time (by decide) (by decide)
  rw [written]
  exact ⟨i, nanos.trans (by decide), read _ (.text blank line)⟩

end Meteo.Time.DateTime
