/-
# Meteo.Cells -- the stored cells of a variable and their type

A variable of a dataset is a block of cells of one stored type: numbers of some
width, truth values, times, texts or bytes of some length, or arbitrary values, among
which there may be times as well, and dates with their own parts.

Most calculations want doubles.  `Cells.toDoubles` converts every cell, a text by
the number it writes, and fails at the first cell that is none.  Times are converted as a
block: `Cells.toDoubles` counts their nanoseconds; `Cells.toSeconds` counts seconds from
1970, and there a missing time becomes the double that is no number.  Among arbitrary values
every object is asked for its number (`Cell.toDouble`): a time has its count of nanoseconds
in either case, while a missing time and a date have none.  `Cells.toSamples` leaves numbers
in the format they are stored in.
-/
import Meteo.Block
import Meteo.Value
import Meteo.Error
import Meteo.Number.Sample
import Meteo.Time.Given

namespace Meteo

set_option autoImplicit false

open Time

inductive CellType where
  | float64
  | float32
  | signed (bits : Nat)
  | unsigned (bits : Nat)
  | bool
  | time
  | string (length : Nat)
  | bytes (length : Nat)
  | value
  deriving Repr, DecidableEq, Inhabited

namespace CellType

def text : CellType → String
  | float64 => "float64"
  | float32 => "float32"
  | signed bits => "int" ++ Decimal.digitText bits
  | unsigned bits => "uint" ++ Decimal.digitText bits
  | bool => "bool"
  | time => "datetime64[ns]"
  | string n => "<U" ++ Decimal.digitText n
  | bytes n => "|S" ++ Decimal.digitText n
  | value => "object"

end CellType

/-- A time in a cell: a count of nanoseconds, or, among arbitrary values only, a date. -/
inductive CellTime where
  | instant (t : Instant)
  | date (t : DateTime)
  deriving Inhabited

namespace CellTime

def toInstant : CellTime → Instant
  | instant t => t
  | date t => t.instant

instance : Coe CellTime Instant := ⟨toInstant⟩

end CellTime

inductive Cell where
  | value (v : Value)
  | time (t : CellTime)
  deriving Inhabited

namespace Cell

/-- The number that an object has when it is asked for one.  A missing time and a date have none,
and are of the wrong kind. -/
def toDouble : Cell → Except Fault Float
  | time (.instant t) => if t.isPresent then .ok (Double.ofInt t.nanos) else .error .badKind
  | time (.date _) => .error .badKind
  | value .null => .ok Exact.nan.toFloat
  | value (.bool b) => .ok (if b then 1.0 else 0.0)
  | value (.int n) => match Double.ofInt? n with
    | some x => .ok x
    | none => .error .overflow
  | value (.float x) => .ok x
  | value (.string s) => match Double.read? s with
    | some x => .ok x
    | none => .error .badValue
  | value (.bytes bs) => match Double.readBytes? bs with
    | some x => .ok x
    | none => .error .badValue
  | value (.list _) => .error .badValue

/-- The double that a cell of a type is converted to, given what times are converted to. -/
def convert (ofTime : Instant → Float) (type : CellType) (c : Cell) : Except Fault Float :=
  match type, c with
  | .time, .time (.instant t) => .ok (ofTime t)
  | _, c => c.toDouble

/-- The nanoseconds of a time; those of a missing one are the least count there is. -/
def nanosOf (t : Instant) : Float := Double.ofInt t.nanos

/-- The seconds of a time; those of a missing one are no number. -/
def secondsOf (t : Instant) : Float :=
  if t.isPresent then Double.ofInt t.nanos / Double.ofInt nanosPerSecond else Exact.nan.toFloat

/-- The number that a cell of a type holds, in its own format if the type is one of numbers. -/
def toSample (type : CellType) (c : Cell) : Except Fault Sample :=
  match type, c with
  | .float32, c => c.toDouble.map Sample.single
  | .signed bits, .value (.int n) => .ok (.word ⟨true, bits⟩ n)
  | .unsigned bits, .value (.int n) => .ok (.word ⟨false, bits⟩ n)
  | .bool, .value (.bool b) => .ok (.truth b)
  | type, c => (c.convert nanosOf type).map Sample.double

/-- Whether nothing was measured: no value, no number, or no time. -/
def isMissing : Cell → Bool
  | time (.instant t) => !t.isPresent
  | time (.date _) => false
  | value .null => true
  | value (.float x) => x.isNaN
  | value _ => false

def time? : Cell → Option Instant
  | time (.instant t) => if t.isPresent then some t else none
  | _ => none

/-- The cell as a value: a time is its count of nanoseconds, and a date its text. -/
def toValue : Cell → Value
  | time (.instant t) => .int t.nanos
  | time (.date t) => .string (t.text " ")
  | value v => v

end Cell

structure Cells where
  type : CellType
  block : Block Cell

namespace Cells

def shape (c : Cells) : List Nat := c.block.shape

def isTime (c : Cells) : Bool := c.type = .time

/-- All cells as doubles; times are counted in nanoseconds. -/
def toDoubles (c : Cells) : Except Fault (Block Float) :=
  c.block.mapM (Cell.convert Cell.nanosOf c.type)

/-- Times counted in seconds, other cells as doubles. -/
def toSeconds (c : Cells) : Except Fault (Block Float) :=
  c.block.mapM (Cell.convert Cell.secondsOf c.type)

def ofDoubles (b : Block Float) : Cells :=
  { type := .float64, block := b.map fun x => .value (.float x) }

/-- All cells as numbers in the format they are stored in. -/
def toSamples (c : Cells) : Except Fault (Block Sample) := c.block.mapM (Cell.toSample c.type)

def isTextOrMissing : Cell → Bool
  | .value (.string _) | .value .null => true
  | .value (.float x) => x.isNaN
  | _ => false

def isText : Cell → Bool
  | .value (.string _) => true
  | _ => false

/-- Arbitrary values that are all texts or missing, as a dataset keeps them: what is missing is the
double that is no number. -/
def withMissingDoubles (c : Cells) : Cells :=
  let cells := c.block.cells.toList
  if c.type = .value && cells.all isTextOrMissing && cells.any isText then
    let missing := Cell.value (.float Exact.nan.toFloat)
    { c with block := c.block.map fun x => if isText x then x else missing }
  else c

end Cells

end Meteo
