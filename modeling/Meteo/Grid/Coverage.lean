/-
# Meteo.Grid.Coverage -- gridded variables and the reading of their levels

A coverage is a gridded variable with the name of its coordinate system and its
vertical axis, if it has one.  Reading it may be limited to one level, the one to
which a vertical position belongs; every other dimension is kept whole, and the
vertical one remains with a single index.  A coverage need not have its data at
hand.
-/
import Meteo.Criterion
import Meteo.Grid.System

namespace Meteo.Grid

set_option autoImplicit false

def source : String := "geosubset.coverage.grid_dataset"

def note (text : String) : Logged Unit := Logged.report Log.Level.debug source text

structure Extract where
  variable_ : Variable
  coordinates : List (String × Variable)

namespace Extract

/-- The coordinate of a dimension, if it runs along no dimension but those of the variable. -/
def coordinate? (ds : Dataset) (v : Variable) (dim : String) : Option (String × Variable) :=
  match ds.vars.get? dim with
  | some c =>
      if ds.isCoordinate dim && c.dims.all v.dims.contains then some (dim, c) else none
  | none => none

def ofDataset (ds : Dataset) (v : Variable) : Extract :=
  ⟨v, v.dims.filterMap (coordinate? ds v)⟩

def only (e : Extract) (dim : String) (k : Nat) : Extract :=
  ⟨e.variable_.only dim k, e.coordinates.map fun c => (c.1, c.2.only dim k)⟩

end Extract

structure Coverage where
  name : String
  attributes : Table Value := .empty
  dataType : String := ""
  coordSystem : String := ""
  units : String := ""
  description : String := ""
  verticalAxis : Option Axis := none
  data : Option Extract := none

namespace Coverage

def findLevel (c : Coverage) (x : Float) : Logged Nat :=
  match c.verticalAxis with
  | some axis => axis.find x
  | none => Logged.fail (.coordinate c.name .noVerticalAxis)

/-- The level that criteria ask for.  All other criteria are passed over. -/
def levelFrom (c : Coverage) (level : Option Nat) : List (String × Value) → Logged (Option Nat)
  | [] => return level
  | (key, v) :: rest =>
      if key = Criterion.verticalKey then do
        let x ← Logged.lift (Criterion.number key v)
        levelFrom c (some (← c.findLevel x)) rest
      else do
        note ("Coverage " ++ c.name ++ ": ignoring subset entry " ++ key ++ "=" ++ v.shown)
        levelFrom c level rest

def verticalDim (c : Coverage) : Option String := c.verticalAxis.map Axis.name

def selectionText : Option (String × Nat) → String
  | none => "\x7b\x7d"
  | some (dim, k) =>
      "\x7b" ++ Text.quoted dim ++ ": slice(" ++ Decimal.digitText k ++ ", " ++
        Decimal.digitText (k + 1) ++ ", None)\x7d"

def read (c : Coverage) (criteria : Table Value) : Logged Extract :=
  match c.data with
  | none =>
      Logged.fail
        (.processing .coverageRead (some ("Coverage " ++ c.name ++ " has no data source")))
  | some data => do
      let level ← c.levelFrom none criteria.entries
      let selection := match level, c.verticalDim with
        | some k, some dim => some (dim, k)
        | _, _ => none
      note ("Coverage " ++ c.name ++ ": reading with indexers " ++ selectionText selection)
      match selection with
      | some (dim, k) => return data.only dim k
      | none => return data

end Coverage

end Meteo.Grid
