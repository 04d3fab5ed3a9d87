/-
# Meteo.Cells.Store -- values put into cells of a type

A value becomes a cell by the rules of the type of its cells.  Cells of doubles and
singles take every number and every text that writes one, and what is missing is no
number; cells of integers take integers of their width and cut fractions off; cells
of texts and of bytes have room for the longest one given, and keep none of the zero
characters at its end; cells of times take stored times.
-/
import Meteo.Cells

namespace Meteo

set_option autoImplicit false

open Time

namespace Cell

/-- The integer of so many bits that a value gives. -/
def storeWord (f : WordFormat) (v : Value) : Except Fault Cell :=
  let inRange (n : Int) : Except Fault Cell :=
    if f.wrap n = n then .ok (.value (.int n)) else .error .overflow
  match v with
  | .int n => inRange n
  | .bool b => inRange (if b then 1 else 0)
  | .float x =>
      match Exact.ofFloat x with
      | .nan => .error .badValue
      | .infinite _ => .error .overflow
      | .finite negative m q =>
          let (num, den) := Exact.fraction m q
          inRange (Exact.signed negative (num / den))
  | .null | .list _ => .error .badKind
  | .string _ | .bytes _ => .error .badValue

/-- The items without those at the end that are `zero`. -/
def dropZeros {α : Type} [BEq α] (zero : α) (xs : List α) : List α :=
  (xs.reverse.dropWhile (· == zero)).reverse

def store (type : CellType) (v : Value) : Except Fault Cell :=
  match type, v with
  | .float64, v => (value v).toDouble.map fun x => .value (.float x)
  | .float32, v => (value v).toDouble.map fun x => .value (.float (Double.toSingle x))
  | .signed bits, v => storeWord ⟨true, bits⟩ v
  | .unsigned bits, v => storeWord ⟨false, bits⟩ v
  | .bool, v => .ok (.value (.bool v.isGiven))
  | .time, v => (Given.ofValue v).map fun t => .time (.instant t)
  | .string _, v => .ok (.value (.string (String.ofList (dropZeros '\x00' v.shown.toList))))
  | .bytes _, .bytes bs => .ok (.value (.bytes (dropZeros 0 bs)))
  | .bytes _, v => .ok (.value (.bytes (dropZeros 0 v.shown.toUTF8.data.toList)))
  | .value, v => .ok (.value v)

/-- The cell of a type that holds what was given; among arbitrary values a date stays one. -/
def ofGiven (type : CellType) (g : Given) : Except Fault Cell :=
  match type, g with
  | type, .value v => store type v
  | .value, .dateTime t => .ok (.time (.date t))
  | _, g => g.stored.map fun t => .time (.instant t)

end Cell

namespace CellType

def room : Given → Nat
  | .value (.bytes bs) => bs.length
  | t => t.shown.length

/-- The type of a name for these values. -/
def ofName? (name : String) (values : List Given) : Option CellType :=
  let longest := values.foldl (fun n v => max n (room v)) 1
  [float64, float32, signed 8, signed 16, signed 32, signed 64, unsigned 8, bool, time,
    value].find? (fun t => t.text = name) |>.orElse fun _ =>
      if name = "str" then some (string longest)
      else if name = "bytes" then some (bytes longest)
      else none

end CellType

def Cells.ofGiven (typeName : String) (shape : List Nat) (values : List Given) :
    Except Fault Cells :=
  match CellType.ofName? typeName values with
  | none => .error .badKind
  | some type => do
      let cells ← values.mapM (Cell.ofGiven type)
      match Block.ofCells? shape cells.toArray with
      | some block => return { type, block }
      | none => throw .badValue

end Meteo
