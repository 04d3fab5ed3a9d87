/-
# Meteo.Time.Given -- the times that callers give

A caller gives a time as a text, an integer number of nanoseconds, a date with a
time of day, a count of steps of some unit (`Stamp`), or as something that is no time
at all.  `Given.instant` is the instant that a request means by it; it fails for what
is no time and for a missing time, and says so with the value that was given, unless
that has no text.
`Given.stored` is the instant under which an observation is stored; there a text
is read by other rules, and a time may be missing.
-/
import Meteo.Time.StoredText
import Meteo.Text.Blank

namespace Meteo.Time

set_option autoImplicit false

open Text

inductive Resolution where
  | year
  | month
  | week
  | day
  | hour
  | minute
  | second
  | milli
  | micro
  | nano
  | pico
  | femto
  | atto
  deriving Repr, DecidableEq, Inhabited

namespace Resolution

/-- The attoseconds of a unit of fixed length; years and months have none. -/
def attos? : Resolution → Option Int
  | year | month => none
  | week => some (7 * 86400 * StoredText.attosPerSecond)
  | day => some (86400 * StoredText.attosPerSecond)
  | hour => some (3600 * StoredText.attosPerSecond)
  | minute => some (60 * StoredText.attosPerSecond)
  | second => some StoredText.attosPerSecond
  | milli => some 1000000000000000
  | micro => some 1000000000000
  | nano => some 1000000000
  | pico => some 1000000
  | femto => some 1000
  | atto => some 1

def letters : Resolution → String
  | year => "Y"
  | month => "M"
  | week => "W"
  | day => "D"
  | hour => "h"
  | minute => "m"
  | second => "s"
  | milli => "ms"
  | micro => "us"
  | nano => "ns"
  | pico => "ps"
  | femto => "fs"
  | atto => "as"

def all : List Resolution :=
  [year, month, week, day, hour, minute, second, milli, micro, nano, pico, femto, atto]

/-- The digits behind the second that a unit tells. -/
def places : Resolution → Nat
  | milli => 3
  | micro => 6
  | nano => 9
  | pico => 12
  | femto => 15
  | atto => 18
  | _ => 0

/-- A time in attoseconds from the epoch as far as a unit tells it. -/
def text (r : Resolution) (n : Int) : String :=
  let nanos := n / StoredText.attosPerNano
  let dateText := (Date.ofDayNumber (nanos / nanosPerDay)).text
  let clock := clockText (nanos % nanosPerDay / nanosPerSecond).toNat
  let fraction := (n % StoredText.attosPerSecond).toNat / Nat.pow 10 (18 - r.places)
  match r with
  | year => String.ofList (dateText.toList.take (dateText.length - 6))
  | month => String.ofList (dateText.toList.take (dateText.length - 3))
  | week | day => dateText
  | hour => dateText ++ "T" ++ String.ofList (clock.toList.take 2)
  | minute => dateText ++ "T" ++ String.ofList (clock.toList.take 5)
  | second => dateText ++ "T" ++ clock
  | _ => dateText ++ "T" ++ clock ++ "." ++ Decimal.padded r.places fraction

end Resolution

structure Step where
  count : Nat
  resolution : Resolution
  deriving Repr, DecidableEq, Inhabited

namespace Step

/-- The step with these letters, which may have the number of units in front. -/
def read? (s : String) : Option Step :=
  let (digits, letters) := (s.toList.takeWhile Char.isDigit, s.toList.dropWhile Char.isDigit)
  let count := if digits.isEmpty then some 1 else natOfDigits? digits
  match count, Resolution.all.find? fun r => r.letters = String.ofList letters with
  | some n, some r => if n = 0 then none else some ⟨n, r⟩
  | _, _ => none

/-- The letters with the number of units in front, unless it is one. -/
def text (s : Step) : String :=
  (if s.count = 1 then "" else Decimal.digitText s.count) ++ s.resolution.letters

/-- The beginning of the step that contains a time, both in attoseconds from the epoch.  Steps are
counted from 1970 on; units of fixed length are counted in 64 bits and wrap around. -/
def floor (s : Step) (n : Int) : Int :=
  match s.resolution.attos? with
  | some length => (Int64.ofInt (n / length)).toInt / s.count * s.count * length
  | none =>
      let date := Date.ofDayNumber (n / StoredText.attosPerNano / nanosPerDay)
      let months := 12 * (date.year - 1970) + (date.month - 1)
      let length : Int := if s.resolution = .year then 12 * s.count else s.count
      let start := months / length * length
      StoredText.startOf (1970 + start / 12) ((start % 12).toNat + 1) 1

end Step

/-- The beginning of a step in attoseconds from the epoch, or a missing time. -/
structure Stamp where
  step : Step
  attos : Option Int
  deriving Repr, DecidableEq, Inhabited

namespace Stamp

def read? (step : Step) (s : String) : Option Stamp :=
  (StoredText.attos? s).map fun n => ⟨step, n.map step.floor⟩

/-- The instant at which the step begins, to the nanosecond. -/
def instant (t : Stamp) : Instant :=
  match t.attos with
  | some n => Instant.ofNanos (n / StoredText.attosPerNano)
  | none => Instant.missing

def text (t : Stamp) : String :=
  match t.attos with
  | some n => t.step.resolution.text n
  | none => Instant.missingText

/-- Whether the text of the time tells the step: not that of a missing time, of an hour, or of
several units. -/
def tellsStep (t : Stamp) : Bool :=
  t.attos.isSome && t.step.count = 1 && t.step.resolution ≠ .hour

/-- The time in quotes, and its step if the text does not tell it. -/
def quoted (t : Stamp) : String :=
  "np.datetime64('" ++ t.text ++
    (if t.tellsStep then "')" else "','" ++ t.step.text ++ "')")

end Stamp

/-- A time as a caller gives it. -/
inductive Given where
  | value (v : Value)
  | dateTime (t : DateTime)
  | stamp (t : Stamp)
  deriving Inhabited

namespace Given

def shown : Given → String
  | value v => v.shown
  | dateTime t => t.text " "
  | stamp t => t.text

def hasText : Given → Bool
  | value v => v.hasText
  | _ => true

def quoted : Given → String
  | value v => v.quoted
  | dateTime t => t.quoted
  | stamp t => t.quoted

/-- The times between parentheses; a single one has a comma behind it. -/
def quotedAll : List Given → String
  | [t] => "(" ++ t.quoted ++ ",)"
  | ts => "(" ++ ", ".intercalate (ts.map quoted) ++ ")"

/-- The instant that a stored text writes. -/
def ofStoredText (s : String) : Except Fault Instant :=
  match StoredText.read? s with
  | some (some n) => .ok (Instant.ofNanos n)
  | some none => .ok Instant.missing
  | none => .error .badValue

/-- Counts of nanoseconds in 64 bits are below this, and not below its opposite. -/
def countLimit : Int := 9223372036854775808

/-- The instant of a value that is neither a text nor a date: a count of nanoseconds in 64 bits, or
bytes with a stored text. -/
def ofValue : Value → Except Fault Instant
  | .null => .ok Instant.missing
  | .bool b => .ok (Instant.ofNanos (if b then 1 else 0))
  | .int n =>
      if -countLimit ≤ n && n < countLimit then .ok (Instant.ofNanos n) else .error .overflow
  | .string s => ofStoredText s
  | .bytes bs =>
      match String.fromUTF8? ⟨bs.toArray⟩ with
      | some s => ofStoredText s
      | none => .error .badEncoding
  | .float _ | .list _ => .error .badValue

/-- The instant that a request means by a text, a `Z` at the end standing for no offset. -/
def ofRequestText (s : String) : Option Instant :=
  let cs := (Text.strip s).toList
  let cs :=
    if cs.getLast? = some 'Z' then cs.dropLast ++ ['+', '0', '0', ':', '0', '0'] else cs
  (DateTime.read? cs).map DateTime.instant

/-- The instant that a request means, without the refusal of missing times. -/
def raw? : Given → Option Instant
  | stamp t => some t.instant
  | dateTime t => some t.instant
  | value (.string s) => ofRequestText s
  | value v => (ofValue v).toOption

def instant (t : Given) : Except Error Instant :=
  match t.raw? with
  | none => .error (if t.hasText then Error.unreadableTime t.shown else .fault .badValue)
  | some i => if i.isPresent then .ok i else .error (Error.notAnInstant t.shown)

/-- The instant under which an observation is stored.  Of an offset only whole minutes count. -/
def stored : Given → Except Fault Instant
  | stamp t => .ok t.instant
  | dateTime t =>
      let minutes := ((t.offset.getD 0).tdiv 1000000).tdiv 60
      .ok (Instant.ofNanos ((t.localMicros - minutes * 60000000) * 1000))
  | value v => ofValue v

end Given

end Meteo.Time
