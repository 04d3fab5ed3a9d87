/-
# Meteo.Time.Calendar -- dates of the Gregorian calendar and their day numbers

Days are numbered from 1970-01-01 in both directions, and the calendar is used
for all years alike.  `Date.dayNumber` counts the days of the years and months
before a date; `Date.ofDayNumber` takes the whole cycles of 400, 100, 4 and 1
years out of a number, the last year of a cycle being the longer one.
-/

namespace Meteo.Time

set_option autoImplicit false

def isLeap (year : Int) : Bool := year % 4 = 0 && (year % 100 ≠ 0 || year % 400 = 0)

def monthLengths (leap : Bool) : List Nat :=
  [31, if leap then 29 else 28, 31, 30, 31, 30, 31, 31, 30, 31, 30, 31]

/-- The days between the first day of year 1 and the first day of `year`. -/
def daysBefore (year : Int) : Int :=
  365 * (year - 1) + (year - 1) / 4 - (year - 1) / 100 + (year - 1) / 400

/-- The day from which days are numbered, counted from the first day of year 1. -/
def epochDay : Int := 719162

/-- A year, a month from 1 to 12, and a day of the month from 1. -/
structure Date where
  year : Int
  month : Nat
  day : Nat
  deriving Repr, DecidableEq, Inhabited

namespace Date

def isValid (d : Date) : Bool :=
  match (monthLengths (isLeap d.year))[d.month - 1]? with
  | some length => 1 ≤ d.month && 1 ≤ d.day && d.day ≤ length
  | none => false

def dayNumber (d : Date) : Int :=
  let months := (monthLengths (isLeap d.year)).take (d.month - 1)
  daysBefore d.year - epochDay + (months.foldr (· + ·) 0 : Nat) + (d.day - 1 : Nat)

/-- The year that contains a day counted from the first day of year 1, and the day in that year,
counted from 0. -/
def yearOf (days : Int) : Int × Nat :=
  let fourHundreds := days / 146097
  let rest := (days % 146097).toNat
  let hundreds := min 3 (rest / 36524)
  let rest := rest - hundreds * 36524
  let fours := rest / 1461
  let rest := rest - fours * 1461
  let ones := min 3 (rest / 365)
  (400 * fourHundreds + 100 * hundreds + 4 * fours + ones + 1, rest - ones * 365)

/-- The month and the day of the month of a day counted from 0, the months having these lengths
and the first of them this number. -/
def monthOf (month day : Nat) : List Nat → Nat × Nat
  | [] => (month, day + 1)
  | length :: lengths =>
      if day < length then (month, day + 1) else monthOf (month + 1) (day - length) lengths

def ofDayNumber (n : Int) : Date :=
  let (year, day) := yearOf (n + epochDay)
  let (month, day) := monthOf 1 day (monthLengths (isLeap year))
  ⟨year, month, day⟩

end Date

/-- The day of the week of a day number, Monday being 0. -/
def weekday (n : Int) : Nat := ((n + 3) % 7).toNat

/-- The number of the Monday that begins the first week of a year, the week that contains its
first Thursday. -/
def firstMonday (year : Int) : Int :=
  let first := Date.dayNumber ⟨year, 1, 1⟩
  let monday := first - weekday first
  if 3 < weekday first then monday + 7 else monday

/-- The number of weeks of a year: 53 if it begins on a Thursday, or on a Wednesday and is a leap
year. -/
def weeksIn (year : Int) : Nat :=
  let first := weekday (Date.dayNumber ⟨year, 1, 1⟩)
  if first = 3 || first = 2 && isLeap year then 53 else 52

/-- The date of a day of a week, both counted from 1. -/
def Date.ofWeek? (year : Int) (week day : Nat) : Option Date :=
  if 1 ≤ week && week ≤ weeksIn year && 1 ≤ day && day ≤ 7 then
    some (Date.ofDayNumber (firstMonday year + (7 * (week - 1) + (day - 1) : Nat)))
  else none

end Meteo.Time
