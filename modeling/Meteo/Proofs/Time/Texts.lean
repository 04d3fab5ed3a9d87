/-
# Meteo.Proofs.Time.Texts -- what the texts of times consist of

Dates, times of day and offsets are written as fields of two digits, the year as one of four and
the microseconds as one of six, with a separator before each but the first (`Date.chars`,
`Clock.chars`, `DateTime.offsetChars`).  The readers and the order of texts only need this form
(`DateTime.toList_text`).

A response writes an instant as the date and the time of day of its second, and a `Z`
(`Instant.isoText_eq`).
-/
import Meteo.Proofs.Decimal.Digits
import Meteo.Proofs.Time.DateTime

namespace Meteo.Time

set_option autoImplicit false

open Decimal (fixedDigits toList_padded)

open Text (IsDigit)

/-- A field of two digits holds what is less than a hundred. -/
theorem toList_padded_two {n : Nat} (fits : n < 100) :
    (Decimal.padded 2 n).toList = fixedDigits 2 n :=
  toList_padded (by decide) fits

/-! ## Dates -/

namespace Date

variable {d : Date}

theorem month_length_le (leap : Bool) : ∀ length ∈ monthLengths leap, length ≤ 31 := by
  cases leap <;> decide

theorem day_le (valid : d.isValid = true) : d.day ≤ 31 := by
  obtain ⟨_, _, length, found, last⟩ := isValid_iff.1 valid
  exact last.trans (month_length_le _ _ (List.mem_of_getElem? found))

/-- The fields of a date. -/
def chars (d : Date) : List Char :=
  fixedDigits 4 d.year.toNat ++ '-' :: (fixedDigits 2 d.month ++ '-' :: fixedDigits 2 d.day)

theorem toList_text (valid : d.isValid = true) (year : 1 ≤ d.year ∧ d.year ≤ 9999) :
    d.text.toList = d.chars := by
  have month := month_le valid
  have day := day_le valid
  rw [text, if_neg (by omega), show d.year.natAbs = d.year.toNat by omega]
  simp only [String.toList_append, toList_padded_two (show d.month < 100 by omega),
    toList_padded_two (show d.day < 100 by omega),
    toList_padded (by decide) (show d.year.toNat < 10 ^ 4 by omega)]
  simp [chars]

end Date

/-! ## Times of day -/

namespace Clock

variable {c : Clock}

/-- The fields of a time of day, that of the microseconds only if there are any. -/
def chars (c : Clock) : List Char :=
  fixedDigits 2 c.hour ++ ':' :: (fixedDigits 2 c.minute ++ ':' :: (fixedDigits 2 c.second ++
    if c.micro = 0 then [] else '.' :: fixedDigits 6 c.micro))

theorem toList_text (valid : c.isValid = true) : c.text.toList = c.chars := by
  obtain ⟨hour, minute, second, micro⟩ := isValid_iff.1 valid
  have hours : c.seconds / 3600 = c.hour := by rw [seconds]; omega
  have minutes : c.seconds / 60 % 60 = c.minute := by rw [seconds]; omega
  have rest : c.seconds % 60 = c.second := by rw [seconds]; omega
  have fraction : (if c.micro = 0 then "" else "." ++ Decimal.padded 6 c.micro).toList =
      if c.micro = 0 then [] else '.' :: fixedDigits 6 c.micro := by
    split
    · rfl
    · rw [String.toList_append, toList_padded (by decide) micro]
      rfl
  rw [text, clockText, hours, minutes, rest]
  simp only [String.toList_append, fraction, toList_padded_two (show c.hour < 100 by omega),
    toList_padded_two (show c.minute < 100 by omega),
    toList_padded_two (show c.second < 100 by omega)]
  simp [chars]

theorem seconds_ofMicros (n : Nat) : (ofMicros n).seconds = n / 1000000 := by
  rw [seconds, ofMicros]
  dsimp only
  omega

end Clock

/-! ## Times with offsets -/

namespace DateTime

variable {t : DateTime}

/-- The sign of an offset and its fields, that of the seconds only if there are any. -/
def offsetChars (seconds : ℤ) : List Char :=
  (if seconds < 0 then '-' else '+') :: (fixedDigits 2 (seconds.natAbs / 3600) ++
    ':' :: (fixedDigits 2 (seconds.natAbs / 60 % 60) ++
      if seconds.natAbs % 60 = 0 then [] else ':' :: fixedDigits 2 (seconds.natAbs % 60)))

theorem toList_offsetText {seconds : ℤ} (within : seconds.natAbs < 86400) :
    (offsetText (seconds * 1000000)).toList = offsetChars seconds := by
  have whole : (seconds * 1000000).natAbs / 1000000 = seconds.natAbs := by omega
  have none : (seconds * 1000000).natAbs % 1000000 = 0 := by omega
  have negative : seconds * 1000000 < 0 ↔ seconds < 0 := by omega
  have sign : (if seconds < 0 then "-" else "+").toList = [if seconds < 0 then '-' else '+'] := by
    split <;> rfl
  simp only [offsetText, whole, none, negative, String.toList_append, sign,
    toList_padded_two (show seconds.natAbs / 3600 < 100 by omega),
    toList_padded_two (show seconds.natAbs / 60 % 60 < 100 by omega)]
  by_cases even : seconds.natAbs % 60 = 0
  · simp [offsetChars, even]
  · simp [offsetChars, even, toList_padded_two (show seconds.natAbs % 60 < 100 by omega)]

theorem toList_offsetText_zero : (offsetText 0).toList = ['+', '0', '0', ':', '0', '0'] := by
  rw [show (0 : ℤ) = 0 * 1000000 by decide, toList_offsetText (by decide)]
  rfl

/-- The fields of a time with the text of its offset behind them. -/
theorem toList_text (time : t.IsTime) : (t.text "T").toList =
    t.date.chars ++ 'T' :: (t.clock.chars ++ ((t.offset.map offsetText).getD "").toList) := by
  simp only [text, String.toList_append, Date.toList_text time.date time.year,
    Clock.toList_text time.clock]
  simp

end DateTime

/-! ## The characters of texts -/

section

variable {p : Char → Prop} (digit : ∀ c, IsDigit c → p c)

include digit

theorem forall_fixedDigits (width n : Nat) : ∀ c ∈ fixedDigits width n, p c :=
  fun c member => digit c (Decimal.isDigit_fixedDigits c member)

theorem Date.forall_chars (d : Date) (hyphen : p '-') : ∀ c ∈ d.chars, p c := by
  have field := forall_fixedDigits digit
  simp only [Date.chars, List.forall_mem_append, List.forall_mem_cons]
  exact ⟨field 4 _, hyphen, field 2 _, hyphen, field 2 _⟩

theorem Clock.forall_chars (t : Clock) (colon : p ':') (point : p '.') : ∀ c ∈ t.chars, p c := by
  have field := forall_fixedDigits digit
  have fraction : ∀ c ∈ (if t.micro = 0 then [] else '.' :: fixedDigits 6 t.micro), p c := by
    split
    · exact nofun
    · exact List.forall_mem_cons.2 ⟨point, field 6 _⟩
  simp only [Clock.chars, List.forall_mem_append, List.forall_mem_cons]
  exact ⟨field 2 _, colon, field 2 _, colon, field 2 _, fraction⟩

theorem DateTime.forall_offsetChars (seconds : ℤ) (plus : p '+') (minus : p '-') (colon : p ':') :
    ∀ c ∈ offsetChars seconds, p c := by
  have field := forall_fixedDigits digit
  have sign : p (if seconds < 0 then '-' else '+') := by
    split
    · exact minus
    · exact plus
  have rest : ∀ c ∈ (if seconds.natAbs % 60 = 0 then []
      else ':' :: fixedDigits 2 (seconds.natAbs % 60)), p c := by
    split
    · exact nofun
    · exact List.forall_mem_cons.2 ⟨colon, field 2 _⟩
  simp only [offsetChars, List.forall_mem_append, List.forall_mem_cons]
  exact ⟨sign, field 2 _, colon, field 2 _, rest⟩

/-- The text of a time consists of digits and a few signs. -/
theorem DateTime.forall_text {t : DateTime} (time : t.IsTime)
    (signs : ∀ c ∈ ['-', ':', '.', '+', 'T'], p c) : ∀ c ∈ (t.text "T").toList, p c := by
  have hyphen := signs '-' (by decide)
  have colon := signs ':' (by decide)
  have offset : ∀ c ∈ ((t.offset.map offsetText).getD "").toList, p c := by
    cases zone : t.offset with
    | none => exact nofun
    | some o =>
        obtain ⟨seconds, rfl, within⟩ := time.offset o zone
        rw [Option.map_some, Option.getD_some, toList_offsetText within]
        exact forall_offsetChars digit seconds (signs '+' (by decide)) hyphen colon
  rw [toList_text time]
  simp only [List.forall_mem_append, List.forall_mem_cons]
  exact ⟨t.date.forall_chars digit hyphen, signs 'T' (by decide),
    t.clock.forall_chars digit colon (signs '.' (by decide)), offset⟩

end

/-! ## Instants -/

namespace Instant

/-- The date and the time of day of the second that contains an instant. -/
def second (t : Instant) : DateTime := DateTime.ofMicros (t.nanos / nanosPerSecond * 1000000)

theorem date_second (t : Instant) : t.second.date = t.split.1 := by
  have day : t.nanos / nanosPerSecond * 1000000 / microsPerDay = t.nanos / nanosPerDay := by
    rw [nanosPerSecond, nanosPerDay, nanosPerSecond, microsPerDay]
    omega
  rw [second, DateTime.ofMicros, day, split]

theorem clock_second (t : Instant) :
    t.second.clock = Clock.ofMicros (t.split.2 / 1000000000 * 1000000) := by
  have rest : (t.nanos / nanosPerSecond * 1000000 % microsPerDay).toNat =
      (t.nanos % nanosPerDay).toNat / 1000000000 * 1000000 := by
    rw [nanosPerSecond, nanosPerDay, nanosPerSecond, microsPerDay]
    omega
  rw [second, DateTime.ofMicros, rest, split]

theorem micro_second (t : Instant) : t.second.clock.micro = 0 := by
  rw [clock_second]
  exact Nat.mul_mod_left _ _

/-- A response writes the date and the time of day of the second. -/
theorem isoText_eq {t : Instant} (present : t.isPresent = true) :
    t.isoText = t.second.text "T" ++ "Z" := by
  have naive : t.second.offset = none := rfl
  rw [isoText, secondsText, if_pos present, DateTime.text, date_second, Clock.text, micro_second,
    clock_second, Clock.seconds_ofMicros, Nat.mul_div_cancel _ (by decide), naive]
  simp

end Instant

end Meteo.Time
