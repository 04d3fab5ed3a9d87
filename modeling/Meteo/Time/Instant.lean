/-
# Meteo.Time.Instant -- points in time, to the nanosecond

An instant is a 64-bit count of nanoseconds from 1970-01-01T00:00:00 UTC.  The
least count stands for a time that is missing.  A missing time compares false
with every time, itself included, and its distance from any time is missing too.

Distances are 64-bit counts as well and wrap around: two instants more than 292
years apart have a distance that is not their difference.
-/
import Meteo.Time.Calendar
import Meteo.Decimal.Text

namespace Meteo.Time

set_option autoImplicit false

def nanosPerSecond : Int := 1000000000

def nanosPerDay : Int := 86400 * nanosPerSecond

/-- The count that stands for a missing time or distance. -/
def missingCount : Int64 := Int64.minValue

structure Instant where
  count : Int64
  deriving Repr, DecidableEq, Inhabited

structure Span where
  count : Int64
  deriving Repr, DecidableEq, Inhabited

namespace Span

def missing : Span := ⟨missingCount⟩

def isPresent (d : Span) : Bool := d.count != missingCount

def abs (d : Span) : Span := if d.count < 0 then ⟨-d.count⟩ else d

/-- Shorter; false if either is missing. -/
def lt (d e : Span) : Bool := d.isPresent && e.isPresent && d.count < e.count

/-- Equally long; false if either is missing. -/
def eq (d e : Span) : Bool := d.isPresent && e.isPresent && d.count == e.count

end Span

namespace Instant

def missing : Instant := ⟨missingCount⟩

def isPresent (t : Instant) : Bool := t.count != missingCount

def ofNanos (n : Int) : Instant := ⟨Int64.ofInt n⟩

def nanos (t : Instant) : Int := t.count.toInt

/-- Earlier; false if either is missing. -/
def lt (t u : Instant) : Bool := t.isPresent && u.isPresent && t.count < u.count

/-- At the same time; false if either is missing. -/
def eq (t u : Instant) : Bool := t.isPresent && u.isPresent && t.count == u.count

/-- The distance from `u` to `t`, wrapped to 64 bits. -/
def since (t u : Instant) : Span :=
  if t.isPresent && u.isPresent then ⟨t.count - u.count⟩ else Span.missing

def split (t : Instant) : Date × Nat :=
  (Date.ofDayNumber (t.nanos / nanosPerDay), (t.nanos % nanosPerDay).toNat)

end Instant

/-! ## Texts -/

namespace Date

/-- The date with hyphens; the year has at least four digits. -/
def text (d : Date) : String :=
  (if d.year < 0 then "-" else "") ++ Decimal.padded 4 d.year.natAbs ++ "-" ++
    Decimal.padded 2 d.month ++ "-" ++ Decimal.padded 2 d.day

end Date

/-- A second of the day as hours, minutes and seconds with colons. -/
def clockText (second : Nat) : String :=
  Decimal.padded 2 (second / 3600) ++ ":" ++ Decimal.padded 2 (second / 60 % 60) ++ ":" ++
    Decimal.padded 2 (second % 60)

namespace Instant

def missingText : String := "NaT"

/-- The instant to the second; what is left of the second is dropped. -/
def secondsText (t : Instant) : String :=
  if t.isPresent then
    let (date, nanos) := t.split
    date.text ++ "T" ++ clockText (nanos / 1000000000)
  else missingText

def text (t : Instant) : String :=
  if t.isPresent then t.secondsText ++ "." ++ Decimal.padded 9 (t.split.2 % 1000000000)
  else missingText

/-- The instant to the second with the mark of UTC, as responses write it. -/
def isoText (t : Instant) : String := t.secondsText ++ "Z"

end Instant

end Meteo.Time
