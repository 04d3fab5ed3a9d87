/-
# Meteo.Log.Line -- an entry written as a line

A pattern is a text with fields.  A field starts with a percent sign and names in
parentheses what it shows: the time, the level by name or by number, the source or
the message.  Then follow how it is fitted into its place and, last, whether it is
written as text (`s`, `r` and `a`), as a number (`d` and others) or as a character
(`c`).  Two percent signs are one that stands for itself.

A pattern needs at least one field that is well formed (`Line.hasField`).  One with a
field that cannot be written is accepted nevertheless, but writes nothing.
-/
import Meteo.Log.Level
import Meteo.Text.Path

namespace Meteo.Log

set_option autoImplicit false

structure Field where
  key : String
  flags : List Char
  width : Nat
  places : Option Nat
  conversion : Char
  deriving Repr, DecidableEq

namespace Field

/-- Whether a character changes how a field is fitted. -/
def isFlag (c : Char) : Bool := "#0+- ".toList.contains c

def number (ds : List Char) : Nat := ds.foldl (fun n c => 10 * n + (c.toNat - 48)) 0

/-- Splits off a point and the digits behind it, if there are any. -/
def places? (cs : List Char) : Option Nat × List Char :=
  match cs with
  | '.' :: cs => (some (number (cs.takeWhile Char.isDigit)), cs.dropWhile Char.isDigit)
  | _ => (none, cs)

/-- Splits off the name of what a field shows.  It stands in parentheses, which must be closed. -/
def key? (cs : List Char) : Option (String × List Char) :=
  match cs with
  | '(' :: cs =>
      match cs.dropWhile (· ≠ ')') with
      | ')' :: rest => some (String.ofList (cs.takeWhile (· ≠ ')')), rest)
      | _ => none
  | _ => none

/-- Leaves out a letter for the size of numbers, which means nothing. -/
def dropSize (cs : List Char) : List Char :=
  match cs with
  | c :: rest => if c = 'h' || c = 'l' || c = 'L' then rest else cs
  | [] => []

/-- Reads the field behind a percent sign, up to the next one, and what follows it. -/
def read? (cs : List Char) : Option (Field × List Char) := do
  let (key, cs) ← key? cs
  let flags := cs.takeWhile isFlag
  let cs := cs.dropWhile isFlag
  let width := number (cs.takeWhile Char.isDigit)
  let (places, cs) := places? (cs.dropWhile Char.isDigit)
  match dropSize cs with
  | c :: cs => some (⟨key, flags, width, places, c⟩, cs)
  | [] => none

/-- The letters that a well-formed field may end with. -/
def conversions : List Char := "diouxefgcrsaDIOUXEFGCRSA".toList

/-- Whether a character may stand in the key of a well-formed field. -/
def inKey (c : Char) : Bool := c.isAlphanum || c = '_'

/-- Leaves out a number, or the star that may stand for one. -/
def dropNumber (cs : List Char) : List Char :=
  match cs with
  | '*' :: rest => rest
  | _ => cs.dropWhile Char.isDigit

/-- Leaves out a point with a number behind it. -/
def dropPlaces (cs : List Char) : List Char :=
  match cs with
  | '.' :: rest => if (dropNumber rest).length < rest.length then dropNumber rest else cs
  | _ => cs

/-- Whether a field stands behind a percent sign that is well formed, though it may be one that
cannot be written.  It may end with the next percent sign, if there is one. -/
def isWellFormed (hasNext : Bool) (cs : List Char) : Bool :=
  match cs with
  | '(' :: cs =>
      match (cs.takeWhile inKey).isEmpty, cs.dropWhile inKey with
      | false, ')' :: cs =>
          match dropPlaces (dropNumber (cs.dropWhile isFlag)) with
          | c :: _ => conversions.contains c
          | [] => hasNext
      | _, _ => false
  | _ => false

/-- Puts `fill` behind or in front of a text until it is as wide as the field. -/
def padded (f : Field) (fill : Char) (cs : List Char) : List Char :=
  let missing := List.replicate (f.width - cs.length) fill
  if f.flags.contains '-' then cs ++ missing else missing ++ cs

/-- A text in a field: its first characters, as many as the field has places. -/
def ofText (f : Field) (s : String) : List Char :=
  f.padded ' ' (match f.places with
    | some n => s.toList.take n
    | none => s.toList)

def zeros (width : Nat) (ds : List Char) : List Char :=
  List.replicate (width - ds.length) '0' ++ ds

/-- A number in a field: its sign, a mark of the base it is written in, and the digits. -/
def ofDigits (f : Field) (isNegative : Bool) (mark digits : List Char) : List Char :=
  let sign := if isNegative then ['-'] else if f.flags.contains '+' then ['+']
    else if f.flags.contains ' ' then [' '] else []
  let front := sign ++ if f.flags.contains '#' then mark else []
  if f.flags.contains '0' && !f.flags.contains '-' then
    front ++ zeros (f.width - front.length) digits
  else f.padded ' ' (front ++ digits)

/-- An integer in a field, written in a base: at least as many digits as the field has places. -/
def ofInt (f : Field) (base : Nat) (mark : String) (n : Int) : List Char :=
  f.ofDigits (n < 0) mark.toList (zeros (f.places.getD 0) (Nat.toDigits base n.natAbs))

def ofDouble? (f : Field) (write : Nat → Float → String) (n : Int) : Option (List Char) :=
  let x := Double.ofInt n
  if x.isFinite then some (f.ofDigits (n < 0) [] (write (f.places.getD 6) x.abs).toList) else none

def inCapitals (cs : List Char) : List Char := cs.map Char.toUpper

inductive Shown where
  | text (s : String)
  | number (n : Int)
  deriving Repr, DecidableEq

def shown? (f : Field) (time : String) (e : Entry) : Option Shown :=
  match f.key with
  | "asctime" => some (.text time)
  | "levelname" => some (.text (Level.text e.level))
  | "levelno" => some (.number e.level)
  | "message" => some (.text e.text)
  | "name" => some (.text e.source)
  | _ => none

/-- A text in a field, as it is or between quotes, or a single character. -/
def writeText? (f : Field) (s : String) : Option (List Char) :=
  match f.conversion with
  | 's' => some (f.ofText s)
  | 'r' => some (f.ofText (Text.quoted s))
  | 'a' => some (f.ofText (Text.quotedAscii s))
  | 'c' => if s.length = 1 then some (f.padded ' ' s.toList) else none
  | _ => none

/-- A number in a field, in the base or the form that a letter names, or the character of that
number. -/
def writeNumber? (f : Field) (n : Int) : Option (List Char) :=
  match f.conversion with
  | 's' | 'r' | 'a' => some (f.ofText (Decimal.intText n))
  | 'd' | 'i' | 'u' => some (f.ofInt 10 "" n)
  | 'o' => some (f.ofInt 8 "0o" n)
  | 'x' => some (f.ofInt 16 "0x" n)
  | 'X' => some (inCapitals (f.ofInt 16 "0x" n))
  | 'e' => f.ofDouble? Double.scientific n
  | 'E' => (f.ofDouble? Double.scientific n).map inCapitals
  | 'f' | 'F' => f.ofDouble? Double.fixed n
  | 'g' => f.ofDouble? Double.generalTo n
  | 'G' => (f.ofDouble? Double.generalTo n).map inCapitals
  | 'c' => if 0 ≤ n && n < 0x110000 then some (f.padded ' ' [Char.ofNat n.toNat]) else none
  | _ => none

def text? (f : Field) (time : String) (e : Entry) : Option (List Char) :=
  match f.shown? time e with
  | some (.text s) => f.writeText? s
  | some (.number n) => f.writeNumber? n
  | none => none

end Field

/-- A pattern, and the text that stands for the time of every entry. -/
structure Line where
  pattern : String
  time : String
  deriving Repr, DecidableEq

namespace Line

def defaultPattern : String := "%(asctime)s - %(name)s - %(levelname)s - %(message)s"

def messageOnly : String := "%(message)s"

def runs (l : Line) : List (List Char) := Text.splitChars '%' l.pattern.toList

/-- Whether a well-formed field stands at the beginning of one of the runs behind percent signs. -/
def anyField : List (List Char) → Bool
  | [] => false
  | run :: rest => Field.isWellFormed (!rest.isEmpty) run || anyField rest

def hasField (l : Line) : Bool := anyField (l.runs.drop 1)

/-- The line of a pattern; an empty pattern shows only the message. -/
def ofPattern (pattern time : String) : Except Fault Line :=
  let l : Line := ⟨if pattern.isEmpty then messageOnly else pattern, time⟩
  if l.hasField then .ok l else .error .badValue

/-- Writes the runs behind percent signs.  An empty run is a percent sign that belongs to the next
one, so that both stand for themselves. -/
def written (time : String) (e : Entry) : List (List Char) → Option (List Char)
  | [] => some []
  | [] :: plain :: rest => (written time e rest).map fun cs => '%' :: plain ++ cs
  | run :: rest => do
      let (f, plain) ← Field.read? run
      return (← f.text? time e) ++ plain ++ (← written time e rest)

/-- The line for an entry, if all its fields can be written. -/
def text? (l : Line) (e : Entry) : Option String :=
  match l.runs with
  | [] => none
  | plain :: rest => (written l.time e rest).map fun cs => String.ofList (plain ++ cs)

end Line

end Meteo.Log
