/-
# Meteo.Time.StoredText -- the texts in which observation times are stored

A stored time is a year, or a date to the month or the day, or a date with a time
of day to the hour, the minute, the second or a fraction of it.  The parts have
hyphens and colons between them and two digits each, the year any number.  An
offset from UTC or a `Z` may follow a time of day, and white space.  An empty text
and `nat` in any case are a missing time.

A fraction may have eighteen digits, so a text counts attoseconds from the epoch.
Observations keep whole nanoseconds of it; what is left is dropped.
-/
import Meteo.Time.RequestText
import Meteo.Error

namespace Meteo.Time.StoredText

set_option autoImplicit false

open Text

def isSpace (c : Char) : Bool := c = ' ' || '\t' ≤ c && c ≤ '\r'

/-- Reads two digits as a number below a limit. -/
def twoDigits? (limit : Nat) (cs : List Char) : Option (Nat × List Char) := do
  let (n, rest) ← takeDigits 2 cs
  if n < limit then some (n, rest) else none

def attosPerNano : Int := 1000000000

def attosPerSecond : Int := nanosPerSecond * attosPerNano

/-- Reads a fraction of a second of up to eighteen digits as attoseconds. -/
def readFraction (cs : List Char) : Nat × List Char :=
  let ds := (cs.take 18).takeWhile fun c => (asciiDigit? c).isSome
  let attos := (ds ++ List.replicate 18 '0').take 18
  ((natOfDigits? attos).getD 0, cs.drop ds.length)

def readClock? (cs : List Char) : Option (Int × List Char) := do
  let (hour, rest) ← twoDigits? 24 cs
  let hours := hour * 3600 * attosPerSecond
  match rest with
  | ':' :: rest =>
      let (minute, rest) ← twoDigits? 60 rest
      let minutes := hours + minute * 60 * attosPerSecond
      match rest with
      | ':' :: rest =>
          let (second, rest) ← twoDigits? 60 rest
          let seconds := minutes + second * attosPerSecond
          match rest with
          | '.' :: rest =>
              let (attos, rest) := readFraction rest
              some (seconds + attos, rest)
          | rest => some (seconds, rest)
      | rest => some (minutes, rest)
  | rest => some (hours, rest)

/-- Reads an offset from UTC in minutes, or none of it. -/
def readOffset? (cs : List Char) : Option (Int × List Char) :=
  match cs with
  | 'Z' :: rest => some (0, rest)
  | sign :: rest =>
      if sign = '+' || sign = '-' then do
        let (hours, rest) ← twoDigits? 24 rest
        let (minutes, rest) ←
          match rest with
          | [] => some (0, [])
          | ':' :: rest => twoDigits? 60 rest
          | rest => twoDigits? 60 rest
        let offset : Int := 60 * hours + minutes
        some (if sign = '-' then -offset else offset, rest)
      else some (0, cs)
  | [] => some (0, [])

/-- Attoseconds from the epoch to the beginning of a date. -/
def startOf (year : Int) (month day : Nat) : Int :=
  Date.dayNumber ⟨year, month, day⟩ * nanosPerDay * attosPerNano

/-- Reads the month and day behind a year and its hyphen, and the time of day behind them. -/
def readAfterYear? (year : Int) (cs : List Char) : Option Int := do
  let (month, rest) ← twoDigits? 13 cs
  if month = 0 then none
  match rest with
  | [] => some (startOf year month 1)
  | '-' :: rest =>
      let (day, rest) ← twoDigits? 32 rest
      let date : Date := ⟨year, month, day⟩
      if !date.isValid then none
      match rest with
      | [] => some (startOf year month day)
      | c :: rest =>
          if c = 'T' || c = ' ' then
            let (attos, rest) ← readClock? rest
            let (offset, rest) ← readOffset? rest
            if (rest.dropWhile isSpace).isEmpty then
              some (startOf year month day + attos - offset * 60 * attosPerSecond)
            else none
          else none
  | _ => none

def readPresent? (cs : List Char) : Option Int := do
  let negative := cs.head? = some '-'
  let rest := cs.dropWhile isSpace
  let rest := if rest.head? = some '-' || rest.head? = some '+' then rest.drop 1 else rest
  if rest.isEmpty then none
  let ds := rest.takeWhile fun c => (asciiDigit? c).isSome
  let year : Int := (natOfDigits? ds).getD 0
  let year := if negative then -year else year
  match rest.drop ds.length with
  | [] => some (startOf year 1 1)
  | '-' :: rest => readAfterYear? year rest
  | _ => none

/-- The attoseconds from the epoch that a stored time writes; none inside for a missing time, and
none at all for a text that writes no time. -/
def attos? (s : String) : Option (Option Int) :=
  let cs := s.toList
  if cs.isEmpty || cs.map Char.toLower = ['n', 'a', 't'] then some none
  else (readPresent? cs).map some

/-- The whole nanoseconds from the epoch that a stored time writes. -/
def read? (s : String) : Option (Option Int) :=
  (attos? s).map fun t => t.map (· / attosPerNano)

end Meteo.Time.StoredText
