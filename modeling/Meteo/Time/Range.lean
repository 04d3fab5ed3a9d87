/-
# Meteo.Time.Range -- time ranges that include both ends

A request may limit times to a range, either end of which may be open.  A range is
given as a list of times; it must have two, both ends must be readable, the first
one first, and the start may not lie behind the end.

The test refuses what lies outside, so a missing time, which lies nowhere, passes
every range.
-/
import Meteo.Time.Given

namespace Meteo.Time

set_option autoImplicit false

/-- A range; an end that is none is open. -/
structure Range where
  start : Option Instant
  stop : Option Instant
  deriving Repr, DecidableEq, Inhabited

namespace Range

def all : Range := ⟨none, none⟩

/-- Whether a time does not lie outside. -/
def contains (r : Range) (t : Instant) : Bool :=
  !(r.start.any fun start => t.lt start) && !(r.stop.any fun stop => stop.lt t)

/-- The end that was given: none for a missing value. -/
def bound : Given → Except Error (Option Instant)
  | .value .null => .ok none
  | t => t.instant.map some

/-- The range that a request gives by a list of times. -/
def ofGiven (ts : List Given) : Except Error Range :=
  match ts with
  | [a, b] => do
      let start ← bound a
      let stop ← bound b
      match start, stop with
      | some s, some e => if e.lt s then .error (Error.rangeOrder (Given.quotedAll ts)) else pure ()
      | _, _ => pure ()
      return ⟨start, stop⟩
  | ts =>
      .error (if ts.all Given.hasText then Error.rangeLength (Given.quotedAll ts)
        else .fault .badValue)

/-- The range of a request; without one, all times. -/
def ofRequest : Option (List Given) → Except Error Range
  | none => .ok all
  | some ts => ofGiven ts

end Range

end Meteo.Time
