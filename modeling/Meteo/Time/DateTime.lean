/-
# Meteo.Time.DateTime -- a date with a time of day and perhaps an offset

Callers may give a time as a date and a time of day to the microsecond, either in
UTC or with the offset of its zone from UTC.  The instant is found by taking the
offset away.

`DateTime.ofNumbers` accepts the numbers that name a time: a date of the years 1 to
9999, a time of day whose later parts may be missing, and an offset of less than a
day.
-/
import Meteo.Error
import Meteo.Time.Instant
import Meteo.Value

namespace Meteo.Time

set_option autoImplicit false

structure Clock where
  hour : Nat := 0
  minute : Nat := 0
  second : Nat := 0
  micro : Nat := 0
  deriving Repr, DecidableEq, Inhabited

namespace Clock

def isValid (c : Clock) : Bool :=
  c.hour < 24 && c.minute < 60 && c.second < 60 && c.micro < 1000000

def seconds (c : Clock) : Nat := c.hour * 3600 + c.minute * 60 + c.second

def micros (c : Clock) : Nat := c.seconds * 1000000 + c.micro

/-- The time of day with colons, and the microseconds if there are any. -/
def text (c : Clock) : String :=
  clockText c.seconds ++ (if c.micro = 0 then "" else "." ++ Decimal.padded 6 c.micro)

end Clock

def microsPerDay : Int := 86400 * 1000000

/-- A date and a time of day; without an offset it is in UTC.  The offset counts microseconds. -/
structure DateTime where
  date : Date
  clock : Clock
  offset : Option Int
  deriving Repr, DecidableEq, Inhabited

namespace DateTime

/-- The number nearest to a distance in seconds, in microseconds, a tie going to the even one. -/
def microsOfSeconds (x : Float) : Except Fault Int :=
  match Exact.ofFloat x with
  | .nan => .error .badValue
  | .infinite _ => .error .overflow
  | .finite negative m q =>
      let (num, den) := Exact.fraction m q
      .ok (Exact.signed negative (roundDiv (num * 1000000) den))

def dayLimit : Nat := 1000000000

/-- The offset of so many microseconds, if it is less than a day. -/
def checkOffset (micros : Int) : Except Fault Int :=
  if dayLimit * microsPerDay ≤ micros.natAbs then .error .overflow
  else if micros.natAbs < microsPerDay then .ok micros
  else .error .badValue

/-- Numbers are below this limit, and not below its opposite. -/
def numberLimit : Int := 2147483648

/-- The time with these parts: year, month, day, hour, minute, second and microsecond, of which the
last four may be missing, and an offset in microseconds. -/
def ofNumbers (parts : List Int) (offset : Option Int) : Except Fault DateTime := do
  let offset ← offset.mapM checkOffset
  if parts.length < 3 || 7 < parts.length then throw .badKind
  if parts.any fun n => n < -numberLimit || numberLimit ≤ n then throw .overflow
  if parts.any (· < 0) then throw .badValue
  let part (i : Nat) : Nat := (parts.getD i 0).toNat
  let t : DateTime := ⟨⟨part 0, part 1, part 2⟩, ⟨part 3, part 4, part 5, part 6⟩, offset⟩
  if 1 ≤ t.date.year && t.date.year ≤ 9999 && t.date.isValid && t.clock.isValid then return t
  else throw .badValue

/-- The microseconds from the epoch on the clock that shows this time. -/
def localMicros (t : DateTime) : Int := t.date.dayNumber * microsPerDay + t.clock.micros

def micros (t : DateTime) : Int := t.localMicros - t.offset.getD 0

def instant (t : DateTime) : Instant := Instant.ofNanos (t.micros * 1000)

/-- An offset with its sign, hours and minutes, and what else of it is not zero. -/
def offsetText (offset : Int) : String :=
  let micros := offset.natAbs
  let seconds := micros / 1000000
  let fraction := micros % 1000000
  (if offset < 0 then "-" else "+") ++ Decimal.padded 2 (seconds / 3600) ++ ":" ++
    Decimal.padded 2 (seconds / 60 % 60) ++
    (if seconds % 60 = 0 && fraction = 0 then "" else ":" ++ Decimal.padded 2 (seconds % 60)) ++
    (if fraction = 0 then "" else "." ++ Decimal.padded 6 fraction)

/-- The date and the time of day with a separator between them, and the offset if there is one. -/
def text (separator : String) (t : DateTime) : String :=
  t.date.text ++ separator ++ t.clock.text ++ (t.offset.map offsetText).getD ""

/-- The parts of a distance in microseconds that are not zero: days, which may be negative, seconds
of a day, and microseconds of a second. -/
def distanceText (micros : Int) : String :=
  let part (name : String) (n : Int) := if n = 0 then [] else [name ++ "=" ++ Decimal.intText n]
  let parts := part "days" (micros / microsPerDay) ++
    part "seconds" (micros % microsPerDay / 1000000) ++ part "microseconds" (micros % 1000000)
  "datetime.timedelta(" ++ (if parts.isEmpty then "0" else ", ".intercalate parts) ++ ")"

/-- The parts of the time as arguments between parentheses; the seconds and the microseconds are
left out when nothing follows and they are zero. -/
def quoted (t : DateTime) : String :=
  let c := t.clock
  let tail :=
    if c.micro ≠ 0 then [c.second, c.micro] else if c.second ≠ 0 then [c.second] else []
  let numbers := Decimal.intText t.date.year ::
    ([t.date.month, t.date.day, c.hour, c.minute] ++ tail).map Decimal.digitText
  let zone :=
    match t.offset with
    | none => []
    | some 0 => ["tzinfo=datetime.timezone.utc"]
    | some offset => ["tzinfo=datetime.timezone(" ++ distanceText offset ++ ")"]
  "datetime.datetime(" ++ ", ".intercalate (numbers ++ zone) ++ ")"

end DateTime

end Meteo.Time
