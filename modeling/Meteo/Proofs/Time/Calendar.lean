/-
# Meteo.Proofs.Time.Calendar -- day numbers count the days of the Gregorian calendar

The calendar is the succession of its days: a date is followed by the next day of its month, the
last of a month by the first of the next, and the last of a year by the first of January
(`Date.next`).  Counting these steps from 1970-01-01 in both directions gives every date a number
(`Date.Counted`), and that number is `Date.dayNumber` (`counted_iff`).

Both directions of the conversion are exact: `Date.ofDayNumber` gives a date of the calendar
(`isValid_ofDayNumber`) that has the number (`dayNumber_ofDayNumber`), and day numbers are in the
order of year, month and day (`dayNumber_lt_iff`), so no two dates share one
(`ofDayNumber_dayNumber`).
-/
import Mathlib
import Meteo.Time.Calendar

namespace Meteo.Time

set_option autoImplicit false

/-! ## Years -/

/-- The days of a year. -/
def yearLength (leap : Bool) : Nat := (monthLengths leap).sum

theorem yearLength_eq (leap : Bool) : yearLength leap = if leap then 366 else 365 := by
  cases leap <;> rfl

theorem isLeap_iff (year : Int) :
    isLeap year = true ↔ year % 4 = 0 ∧ (year % 100 ≠ 0 ∨ year % 400 = 0) := by
  simp [isLeap]

theorem daysBefore_succ (year : Int) :
    daysBefore (year + 1) = daysBefore year + yearLength (isLeap year) := by
  have leap := isLeap_iff year
  rw [daysBefore, daysBefore, yearLength_eq]
  split
  · next is =>
    have rule := leap.1 is
    omega
  · next isnt =>
    have rule := mt leap.2 isnt
    omega

theorem daysBefore_mono {y z : Int} (le : y ≤ z) : daysBefore y ≤ daysBefore z := by
  rw [daysBefore, daysBefore]
  omega

/-- A year begins behind all days of the years before it. -/
theorem daysBefore_add_le {y z : Int} (less : y < z) :
    daysBefore y + yearLength (isLeap y) ≤ daysBefore z := by
  rw [← daysBefore_succ]
  exact daysBefore_mono less

section

/-! A year is `d` whole years behind `c` cycles of 4, `b` of 100 and `a` of 400 years. -/

variable (a : Int) {b c d : Nat} (hundreds : b < 4) (fours : c < 25) (ones : d < 4)

include hundreds fours ones

theorem daysBefore_cycles : daysBefore (400 * a + 100 * b + 4 * c + d + 1) =
    146097 * a + 36524 * b + 1461 * c + 365 * d := by
  rw [daysBefore]
  omega

/-- The last year of a cycle of 4 is longer, unless the cycle ends a century and not the last. -/
theorem isLeap_cycles :
    isLeap (400 * a + 100 * b + 4 * c + d + 1) = true ↔ d = 3 ∧ (c < 24 ∨ b = 3) := by
  rw [isLeap_iff]
  omega

end

theorem daysBefore_yearOf (days : Int) :
    daysBefore (Date.yearOf days).1 + (Date.yearOf days).2 = days := by
  have size := Int.emod_lt_of_pos days (show 0 < 146097 by decide)
  have sign := Int.emod_nonneg days (show 146097 ≠ 0 by decide)
  rw [Date.yearOf]
  dsimp only
  rw [daysBefore_cycles _ (by omega) (by omega) (by omega)]
  omega

theorem yearOf_lt (days : Int) :
    (Date.yearOf days).2 < yearLength (isLeap (Date.yearOf days).1) := by
  have size := Int.emod_lt_of_pos days (show 0 < 146097 by decide)
  rw [yearLength_eq, Date.yearOf]
  dsimp only
  split
  · omega
  · next short =>
    rw [isLeap_cycles _ (by omega) (by omega) (by omega)] at short
    omega

/-! ## Months -/

theorem monthLengths_length (leap : Bool) : (monthLengths leap).length = 12 := rfl

/-- A day of the year lies in one of the months, and the days of the months before it and its
place in the month make up its place in the year. -/
theorem monthOf_spec (month : Nat) {day : Nat} {lengths : List Nat} (within : day < lengths.sum) :
    ∃ k length, lengths[k]? = some length ∧ (Date.monthOf month day lengths).1 = month + k ∧
      (lengths.take k).sum + (Date.monthOf month day lengths).2 = day + 1 ∧
      1 ≤ (Date.monthOf month day lengths).2 ∧ (Date.monthOf month day lengths).2 ≤ length := by
  induction lengths generalizing month day with
  | nil => exact absurd within (Nat.not_lt_zero day)
  | cons length lengths ih =>
      rw [Date.monthOf]
      split
      · next here => exact ⟨0, length, rfl, rfl, Nat.zero_add _, Nat.succ_pos _, here⟩
      · next later =>
        rw [List.sum_cons] at within
        obtain ⟨k, l, found, number, place, first, last⟩ :=
          ih (month + 1) (show day - length < lengths.sum by omega)
        refine ⟨k + 1, l, by rwa [List.getElem?_cons_succ], by omega, ?_, first, last⟩
        rw [List.take_succ_cons, List.sum_cons]
        omega

theorem sum_take_add_le {lengths : List Nat} {k length : Nat} (found : lengths[k]? = some length) :
    (lengths.take k).sum + length ≤ lengths.sum := by
  obtain ⟨bound, rfl⟩ := List.getElem?_eq_some_iff.1 found
  rw [← List.sum_take_succ lengths k bound]
  exact (List.take_sublist _ _).sum_le_sum fun _ _ => Nat.zero_le _

namespace Date

variable {d e : Date}

theorem isValid_iff : d.isValid = true ↔
    1 ≤ d.month ∧ 1 ≤ d.day ∧
      ∃ length, (monthLengths (isLeap d.year))[d.month - 1]? = some length ∧ d.day ≤ length := by
  rw [isValid]
  split
  · next length found => simp [found, and_assoc]
  · next none => simp [none]

theorem month_le (valid : d.isValid = true) : d.month ≤ 12 := by
  obtain ⟨_, _, length, found, _⟩ := isValid_iff.1 valid
  obtain ⟨bound, _⟩ := List.getElem?_eq_some_iff.1 found
  rw [monthLengths_length] at bound
  omega

/-- The days of the year before a date. -/
def dayOfYear (d : Date) : Nat :=
  ((monthLengths (isLeap d.year)).take (d.month - 1)).sum + (d.day - 1)

theorem dayNumber_eq (d : Date) : d.dayNumber = daysBefore d.year - epochDay + d.dayOfYear := by
  rw [dayNumber, dayOfYear, Nat.cast_add, ← Int.add_assoc]
  rfl

theorem dayOfYear_lt (valid : d.isValid = true) : d.dayOfYear < yearLength (isLeap d.year) := by
  obtain ⟨_, first, length, found, last⟩ := isValid_iff.1 valid
  have whole := sum_take_add_le found
  rw [dayOfYear, yearLength]
  omega

/-! ## The order of dates -/

/-- The order of year, month and day. -/
def Earlier (d e : Date) : Prop :=
  d.year < e.year ∨ d.year = e.year ∧ (d.month < e.month ∨ d.month = e.month ∧ d.day < e.day)

theorem earlier_trichotomy (d e : Date) : d.Earlier e ∨ d = e ∨ e.Earlier d := by
  cases d
  cases e
  simp only [Earlier, mk.injEq]
  omega

theorem dayOfYear_lt_of_month_lt (year : d.year = e.year) (less : d.month < e.month)
    (valid : d.isValid = true) : d.dayOfYear < e.dayOfYear := by
  obtain ⟨month, first, length, found, last⟩ := isValid_iff.1 valid
  obtain ⟨bound, rfl⟩ := List.getElem?_eq_some_iff.1 found
  have months : d.month - 1 + 1 ≤ e.month - 1 := by omega
  rw [dayOfYear, dayOfYear, ← year]
  calc ((monthLengths (isLeap d.year)).take (d.month - 1)).sum + (d.day - 1)
      < ((monthLengths (isLeap d.year)).take (d.month - 1 + 1)).sum := by
        rw [List.sum_take_succ _ _ bound]
        omega
    _ ≤ ((monthLengths (isLeap d.year)).take (e.month - 1)).sum :=
        (List.take_sublist_take_left months).sum_le_sum fun _ _ => Nat.zero_le _
    _ ≤ _ := Nat.le_add_right _ _

theorem dayNumber_lt_of_earlier (valid : d.isValid = true) (earlier : d.Earlier e) :
    d.dayNumber < e.dayNumber := by
  rw [dayNumber_eq, dayNumber_eq]
  obtain year | ⟨year, month | ⟨month, day⟩⟩ := earlier
  · have whole := daysBefore_add_le year
    have within := dayOfYear_lt valid
    omega
  · have inYear := dayOfYear_lt_of_month_lt year month valid
    rw [year]
    omega
  · have first := (isValid_iff.1 valid).2.1
    rw [dayOfYear, dayOfYear, year, month]
    omega

/-- Day numbers are in the order of year, month and day. -/
theorem dayNumber_lt_iff (valid : d.isValid = true) (valid' : e.isValid = true) :
    d.dayNumber < e.dayNumber ↔ d.Earlier e := by
  refine ⟨fun less => ?_, dayNumber_lt_of_earlier valid⟩
  obtain earlier | rfl | later := earlier_trichotomy d e
  · exact earlier
  · exact absurd less (Int.lt_irrefl _)
  · exact absurd (dayNumber_lt_of_earlier valid' later) (Int.not_lt.2 less.le)

theorem dayNumber_inj (valid : d.isValid = true) (valid' : e.isValid = true) :
    d.dayNumber = e.dayNumber ↔ d = e := by
  refine ⟨fun same => ?_, congrArg dayNumber⟩
  obtain earlier | rfl | later := earlier_trichotomy d e
  · exact absurd same (dayNumber_lt_of_earlier valid earlier).ne
  · rfl
  · exact absurd same (dayNumber_lt_of_earlier valid' later).ne'

/-! ## From a number to the date and back -/

theorem ofDayNumber_eq (n : Int) : ofDayNumber n =
    ⟨(yearOf (n + epochDay)).1,
      (monthOf 1 (yearOf (n + epochDay)).2 (monthLengths (isLeap (yearOf (n + epochDay)).1))).1,
      (monthOf 1 (yearOf (n + epochDay)).2 (monthLengths (isLeap (yearOf (n + epochDay)).1))).2⟩ :=
  rfl

theorem ofDayNumber_spec (n : Int) :
    (ofDayNumber n).isValid = true ∧ (ofDayNumber n).dayNumber = n := by
  obtain ⟨k, length, found, month, place, first, last⟩ :=
    monthOf_spec 1 (yearOf_lt (n + epochDay))
  have year := daysBefore_yearOf (n + epochDay)
  rw [isValid_iff, dayNumber_eq, dayOfYear, ofDayNumber_eq, month]
  dsimp only
  rw [Nat.add_sub_cancel_left]
  refine ⟨⟨Nat.le_add_right 1 k, first, length, found, last⟩, ?_⟩
  omega

@[simp] theorem isValid_ofDayNumber (n : Int) : (ofDayNumber n).isValid = true :=
  (ofDayNumber_spec n).1

@[simp] theorem dayNumber_ofDayNumber (n : Int) : (ofDayNumber n).dayNumber = n :=
  (ofDayNumber_spec n).2

theorem ofDayNumber_dayNumber (valid : d.isValid = true) : ofDayNumber d.dayNumber = d :=
  (dayNumber_inj (isValid_ofDayNumber _) valid).1 (dayNumber_ofDayNumber _)

/-! ## The succession of days -/

/-- The following day: of the same month, or the first of the next month, or the first of the next
year. -/
def next (d : Date) : Date :=
  let tomorrow : Date := { d with day := d.day + 1 }
  if tomorrow.isValid then tomorrow
  else if d.month < 12 then ⟨d.year, d.month + 1, 1⟩
  else ⟨d.year + 1, 1, 1⟩

/-- Counting the days from 1970-01-01 in both directions gives a date the number. -/
inductive Counted : Date → Int → Prop
  | epoch : Counted ⟨1970, 1, 1⟩ 0
  | after {d : Date} {n : Int} : Counted d n → Counted d.next (n + 1)
  | before {d : Date} {n : Int} : d.isValid = true → Counted d.next n → Counted d (n - 1)

theorem month_nonempty (leap : Bool) : ∀ length ∈ monthLengths leap, 1 ≤ length := by
  cases leap <;> decide

/-- The first of a month is a day. -/
theorem isValid_first (year : Int) {month : Nat} (first : 1 ≤ month) (last : month ≤ 12) :
    isValid ⟨year, month, 1⟩ = true := by
  have within : month - 1 < (monthLengths (isLeap year)).length := by
    rw [monthLengths_length]
    omega
  rw [isValid_iff]
  exact ⟨first, le_refl 1, _, List.getElem?_eq_getElem within,
    month_nonempty _ _ (List.getElem_mem within)⟩

/-- The last day of a month, and of a year. -/
theorem day_eq_of_not_isValid (valid : d.isValid = true)
    (past : ({ d with day := d.day + 1 } : Date).isValid ≠ true) :
    (monthLengths (isLeap d.year))[d.month - 1]? = some d.day := by
  obtain ⟨month, first, length, found, last⟩ := isValid_iff.1 valid
  have most : ¬ d.day + 1 ≤ length := fun within =>
    past (isValid_iff.2 ⟨month, Nat.le_succ_of_le first, length, found, within⟩)
  rw [found, show length = d.day by omega]

theorem isValid_next (valid : d.isValid = true) : d.next.isValid = true := by
  have month := (isValid_iff.1 valid).1
  rw [next]
  split
  · next tomorrow => exact tomorrow
  · split
    · next inYear => exact isValid_first _ (Nat.succ_pos _) inYear
    · exact isValid_first _ (le_refl 1) (by decide)

theorem dayNumber_next (valid : d.isValid = true) : d.next.dayNumber = d.dayNumber + 1 := by
  obtain ⟨month, first, -⟩ := isValid_iff.1 valid
  have inYear := month_le valid
  rw [next, dayNumber_eq, dayNumber_eq]
  split
  · rw [dayOfYear, dayOfYear]
    dsimp only
    omega
  · next past =>
    have last := day_eq_of_not_isValid valid past
    obtain ⟨bound, found⟩ := List.getElem?_eq_some_iff.1 last
    have whole := List.sum_take_succ _ _ bound
    rw [found] at whole
    split
    · rw [dayOfYear, dayOfYear]
      dsimp only
      rw [show d.month + 1 - 1 = d.month - 1 + 1 by omega]
      omega
    · have all : (monthLengths (isLeap d.year)).take (d.month - 1 + 1) =
          monthLengths (isLeap d.year) :=
        List.take_of_length_le (by rw [monthLengths_length]; omega)
      have turn := daysBefore_succ d.year
      rw [all] at whole
      rw [yearLength] at turn
      rw [dayOfYear, dayOfYear]
      simp only [Nat.sub_self, List.take_zero, List.sum_nil]
      omega

/-- The number of a date counts the days from 1970-01-01. -/
theorem counted_iff {n : Int} : Counted d n ↔ d.isValid = true ∧ d.dayNumber = n := by
  constructor
  · intro counted
    induction counted with
    | epoch => decide
    | after _ ih => exact ⟨isValid_next ih.1, by rw [dayNumber_next ih.1, ih.2]⟩
    | before valid _ ih =>
        refine ⟨valid, ?_⟩
        have step := dayNumber_next valid
        omega
  · rintro ⟨valid, number⟩
    -- on the number, up and down from the epoch: a date with the number behind another's follows it
    induction n using Int.induction_on generalizing d with
    | zero =>
        have same : d = ⟨1970, 1, 1⟩ := (dayNumber_inj valid (by decide)).1 number
        rw [same]
        exact .epoch
    | succ i ih =>
        have same : (ofDayNumber i).next = d := by
          rw [← dayNumber_inj (isValid_next (isValid_ofDayNumber i)) valid,
            dayNumber_next (isValid_ofDayNumber i), dayNumber_ofDayNumber, number]
        rw [← same]
        exact .after (ih (isValid_ofDayNumber i) (dayNumber_ofDayNumber i))
    | pred i ih =>
        refine .before valid (ih (isValid_next valid) ?_)
        rw [dayNumber_next valid, number]
        omega

/-! ## The years of a range of days -/

/-- The days from the beginning of one year to the end of another are those with dates in these
years. -/
theorem year_between_iff (valid : d.isValid = true) (first last : Int) :
    first ≤ d.year ∧ d.year ≤ last ↔
      daysBefore first - epochDay ≤ d.dayNumber ∧
        d.dayNumber < daysBefore (last + 1) - epochDay := by
  have within := dayOfYear_lt valid
  rw [dayNumber_eq]
  constructor
  · rintro ⟨low, high⟩
    have start := daysBefore_mono low
    have stop := daysBefore_add_le (Int.lt_add_one_of_le high)
    omega
  · rintro ⟨low, high⟩
    refine ⟨?_, ?_⟩
    · by_contra less
      have stop := daysBefore_add_le (Int.not_le.1 less)
      omega
    · by_contra more
      have start := daysBefore_mono (Int.not_le.1 more)
      omega

end Date

end Meteo.Time
