/-
# Meteo.Axis.Basic -- coordinate axes of a dataset

An axis is a scale with a name and what is known about it: the kind of its
positions, the stored type of its samples, units, a description, and the
attributes of the coordinate it was made from.  Coordinates that hold times become
scales in seconds from 1970, whatever units they state.

The scale of an axis is computed in doubles unless its parts were handed over as
they are stored (`Axis Sample`); either way positions are given and shown as doubles.
-/
import Meteo.Axis.Build
import Meteo.Axis.Kind
import Meteo.Axis.Lookup
import Meteo.Dataset.Basic
import Meteo.Log

namespace Meteo

set_option autoImplicit false

structure Axis (α : Type := Float) where
  name : String
  kind : Option AxisKind := none
  dataType : String := "float64"
  units : String := ""
  description : String := ""
  attributes : Table Value := .empty
  scale : Scale α

namespace Axis

variable {α : Type} [DoubleOrdinate α]

open DoubleOrdinate

def source : String := "geosubset.coordinates.axis"

def epochUnits : String := "seconds since 1970-01-01T00:00:00Z"

def lookupError (x : Float) : LookupFailure → Error
  | .notFinite => Error.lookupValue x
  | .steps .notANumber => .fault .badValue
  | .steps .infinite => .fault .overflow
  | .noOpposite => .fault .badKind

/-- The index of the sample that a position belongs to.  Looking up on an axis of a single sample
is not reported. -/
def find (a : Axis α) (x : Float) : Logged Nat :=
  match a.scale.find (ofDouble x) with
  | .error e => Logged.fail (lookupError x e)
  | .ok i => do
      if a.scale.size ≠ 1 then
        Logged.report Log.Level.debug source
          ("Axis " ++ a.name ++ ": value " ++ Double.text x ++ " -> index " ++ Decimal.digitText i)
      return i

def start (a : Axis α) : Float := toDouble a.scale.start

def stop (a : Axis α) : Float := toDouble a.scale.stop

def resolution? (a : Axis α) : Option Float := a.scale.resolution?.map toDouble

def stored (a : Axis α) : Except Error (List Float) :=
  match a.scale.stored? with
  | some xs => .ok (xs.map toDouble)
  | none => .error (.coordinate a.name .noStoredValues)

def positions (a : Axis α) : List Float := a.scale.coordValues.toList.map toDouble

def edges (a : Axis α) : Except Error (List Float) :=
  match a.scale.coordEdges? with
  | some xs => .ok (xs.toList.map toDouble)
  | none => .error (.coordinate a.name .noSharedEdges)

/-- The number at an index; a negative one counts from the end. -/
def at? (xs : List Float) (i : Int) : Except Fault Float :=
  let k := if i < 0 then i + xs.length else i
  if k < 0 then .error .badIndex
  else match xs[k.toNat]? with
    | some x => .ok x
    | none => .error .badIndex

def storedText (xs : List Float) : String :=
  "AxisValues(" ++ (Value.list (xs.map Value.float)).quoted ++ ")"

/-- Samples in doubles, after their shape has been checked. -/
def samples (name : String) (shape : List Nat) (convert : Except Fault (Block Float)) :
    Except Error (Block Float) :=
  match Scale.samplesIssue? shape with
  | some issue => .error (.coordinate name issue)
  | none => convert.mapError Error.fault

/-- The scale of samples and the bounds of their cells.  The shape of the samples is checked before
anything is converted. -/
def scaleOf (name : String) (values : Cells) (bounds : Option Cells) (regular : Option Bool)
    (convert : Cells → Except Fault (Block Float)) : Except Error (Scale Float) := do
  let xs ← samples name values.shape (convert values)
  let bs ←
    match bounds with
    | none => .ok none
    | some b => ((convert b).mapError Error.fault).map some
  (Scale.ofSamples xs bs regular).mapError (Error.coordinate name)

def ofParts (name : String) (n : Int) (start stop : Float) (spacing : Spacing)
    (parts : Layout.Parts Sample) : Except Error (Axis Sample) :=
  match Scale.ofParts n (.plain start) (.plain stop) spacing parts with
  | .ok scale => .ok { name, scale }
  | .error issue => .error (.coordinate name issue)

/-- Whether the texts that an axis needs can be made of the attributes of its coordinate.  They are
not needed before the coordinate is known to run along one dimension. -/
def isNamed (v : Variable) : Bool :=
  v.rank ≠ 1 || (Convention.isDescribed v.attributes && AxisKind.isTold v.attributes)

/-- The axis of a coordinate and perhaps the bounds of its cells. -/
def ofVariable (v : Variable) (bounds : Option Cells) (name : Option String) :
    Except Error Axis :=
  if isNamed v then do
    let name := name.getD v.nameText
    let scale ← scaleOf name v.cells bounds none Cells.toSeconds
    return {
      name
      kind := AxisKind.infer? name v.attributes v.cells.isTime
      dataType := v.cells.type.text
      units := if v.cells.isTime then epochUnits else Convention.attributeText v.attributes "units"
      description := Convention.descriptionText v.attributes
      attributes := v.attributes
      scale }
  else .error (.fault .badValue)

end Axis

end Meteo
