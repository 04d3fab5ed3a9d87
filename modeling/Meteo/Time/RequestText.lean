/-
# Meteo.Time.RequestText -- the texts in which a request may write a time

A date is written with or without hyphens, by month and day or by week and
weekday.  Any one character then separates it from the time of day, of which the
minutes, the seconds and a fraction may be missing; a fraction is cut after six
digits.  An offset from UTC may follow, written like a time of day, and a `Z`
stands for no offset.

`DateTime.read?` accepts a few texts beyond the standard: a colon, or nothing, may
stand for the point before a fraction, and what stands between the time of day and
an offset is skipped if it is a single character of ASCII or follows six digits
of a fraction.
-/
import Meteo.Time.DateTime
import Meteo.Text.Digit

namespace Meteo.Time

set_option autoImplicit false

open Text

/-- Exactly so many digits in front, as a number, and the rest. -/
def takeDigits (count : Nat) (cs : List Char) : Option (Nat × List Char) :=
  let ds := cs.take count
  if ds.length = count then (natOfDigits? ds).map fun n => (n, cs.drop count) else none

def hasDigitAt (cs : List Char) (i : Nat) : Bool := (cs[i]?.bind asciiDigit?).isSome

/-- The length of the date in front of a text.  The hyphens tell it; behind a week, a hyphen with
two digits is read as the separator, and without hyphens the number of digits decides. -/
def dateLength (cs : List Char) : Nat :=
  let size := cs.length
  if size = 7 then 7
  else if cs[4]? = some '-' then
    if cs[5]? = some 'W' then
      if 8 < size && cs[8]? = some '-' && !hasDigitAt cs 10 then 10 else 8
    else 10
  else if cs[4]? = some 'W' then
    let stop := 7 + ((cs.drop 7).takeWhile fun c => (asciiDigit? c).isSome).length
    if stop < 9 then stop else if stop % 2 = 0 then 7 else 8
  else 8

def readDate? (cs : List Char) (length : Nat) : Option Date := do
  let (year, rest) ← takeDigits 4 cs
  let hyphens := rest.head? = some '-'
  let rest := if hyphens then rest.drop 1 else rest
  /- a hyphen is wanted here if there was one behind the year -/
  let next (cs : List Char) : Option (List Char) :=
    if !hyphens then some cs else if cs.head? = some '-' then some (cs.drop 1) else none
  if rest.head? = some 'W' then
    let (week, rest) ← takeDigits 2 (rest.drop 1)
    if cs.length - rest.length < length then
      let (day, _) ← takeDigits 1 (← next rest)
      Date.ofWeek? year week day
    else Date.ofWeek? year week 1
  else
    let (month, rest) ← takeDigits 2 rest
    let (day, _) ← takeDigits 2 (← next rest)
    let date : Date := ⟨year, month, day⟩
    if 1 ≤ year && date.isValid then some date else none

/-- Reads a fraction of a second: the microseconds, and whether the text ends behind it. -/
def readFraction? (cs : List Char) : Option (Nat × Bool) := do
  let count := min 6 cs.length
  let (n, rest) ← takeDigits count cs
  let rest := rest.dropWhile fun c => (asciiDigit? c).isSome
  some (n * Nat.pow 10 (6 - count), rest.isEmpty)

/-- Reads the hours, minutes and seconds that a time of day still may have, `left` of them, and a
fraction.  `colons` says whether a colon stood behind the hours.  The numbers read come in order,
then the microseconds, and whether the text ends behind them. -/
def readFields? (left : Nat) (colons : Option Bool) (cs : List Char) :
    Option (List Nat × Nat × Bool) :=
  match left with
  | 0 => do
      let (micro, clean) ← readFraction? cs
      some ([], micro, clean)
  | left + 1 => do
      let (n, rest) ← takeDigits 2 cs
      match rest with
      | [] => some ([n], 0, true)
      | [c] => if c.toNat < 0x80 then some ([n], 0, false) else none
      | c :: more =>
          let colons := colons.getD (c = ':')
          if colons && c = ':' then
            let (ns, micro, clean) ← readFields? left (some colons) more
            some (n :: ns, micro, clean)
          else if c = '.' || c = ',' then
            let (micro, clean) ← readFraction? more
            some ([n], micro, clean)
          else if !colons then
            let (ns, micro, clean) ← readFields? left (some colons) rest
            some (n :: ns, micro, clean)
          else none

/-- Reads a time of day, and whether the text ends behind it. -/
def readClock? (cs : List Char) : Option (Clock × Bool) := do
  let (ns, micro, clean) ← readFields? 3 none cs
  some (⟨ns.getD 0 0, ns.getD 1 0, ns.getD 2 0, micro⟩, clean)

def beginsOffset (c : Char) : Bool := c = '+' || c = '-' || c = 'Z'

/-- Reads an offset in microseconds.  It is less than a day; one without whole seconds is none. -/
def readOffset? : List Char → Option Int
  | ['Z'] => some 0
  | sign :: cs => do
      if sign = 'Z' then none
      let (clock, clean) ← readClock? cs
      if !clean then none
      if clock.seconds = 0 then some 0
      else
        let micros : Int := clock.micros
        if micros < microsPerDay then some (if sign = '-' then -micros else micros) else none
  | [] => none

def readTime? (cs : List Char) : Option (Clock × Option Int) := do
  let front := cs.takeWhile fun c => !beginsOffset c
  let back := cs.dropWhile fun c => !beginsOffset c
  let (clock, clean) ← readClock? front
  if back.isEmpty then (if clean then some (clock, none) else none)
  else some (clock, some (← readOffset? back))

def DateTime.read? (cs : List Char) : Option DateTime := do
  let length := dateLength cs
  let date ← readDate? cs length
  match cs.drop length with
  | [] => some ⟨date, {}, none⟩
  | _ :: rest =>
      let (clock, offset) ← readTime? rest
      if clock.isValid then some ⟨date, clock, offset⟩ else none

end Meteo.Time
