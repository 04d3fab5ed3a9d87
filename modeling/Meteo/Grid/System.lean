/-
# Meteo.Grid.System -- transforms, coordinate systems and gridsets

A transform is a map projection or a parametric vertical coordinate.  A gridset is
a group of coverages with the same axes and the same transforms; its coordinate
system refers to them by name.  The axes and the transforms of a whole dataset are
those of its gridsets, of each name the first one.
-/
import Meteo.Axis.Basic

namespace Meteo.Grid

set_option autoImplicit false

structure Transform where
  name : String
  isHorizontal : Bool
  attributes : Table Value

structure CoordSystem where
  name : String
  transforms : List String
  axes : List String
  deriving Repr, DecidableEq

/-- Coverages with the same axes and transforms. -/
structure Gridset where
  name : String
  axes : List Axis
  transforms : List Transform
  grids : List String

/-! ## Transforms -/

def Transform.source : String := "geosubset.coordinates.coord_sys"

def Transform.ofMapping (v : Variable) (name : Option String) : Logged Transform := do
  if !v.attributes.contains "grid_mapping_name" then
    Logged.report Log.Level.warning Transform.source
      ("Grid mapping variable " ++ v.nameText ++ " has no grid_mapping_name attribute")
  return ⟨name.getD v.nameText, true, v.attributes⟩

def Transform.ofVertical? (v : Variable) : Option Transform :=
  (v.attributes.get? "formula_terms").map fun terms =>
    let standardName := (v.attributes.get? "standard_name").getD (.string "")
    ⟨v.nameText, false, Table.ofList [("standard_name", standardName), ("formula_terms", terms)]⟩

/-! ## First of each name -/

variable {α : Type}

/-- Keeps the items whose names are not in `seen` and have not occurred before. -/
def firstsFrom (name : α → String) (seen : List String) : List α → List α
  | [] => []
  | x :: xs =>
      if seen.contains (name x) then firstsFrom name seen xs
      else x :: firstsFrom name (name x :: seen) xs

/-- The first item of each name, in order. -/
def firsts (name : α → String) (xs : List α) : List α := firstsFrom name [] xs

def axesOf (gs : List Gridset) : List Axis := firsts Axis.name (gs.flatMap Gridset.axes)

def transformsOf (gs : List Gridset) : List Transform :=
  firsts Transform.name (gs.flatMap Gridset.transforms)

namespace Gridset

def coordSystem (g : Gridset) : CoordSystem :=
  ⟨g.name, g.transforms.map Transform.name, g.axes.map Axis.name⟩

/-- The name of a coordinate system: the names of its axes, and those of its transforms between
parentheses. -/
def nameFor (axes : List Axis) (transforms : List Transform) : String :=
  let name := " ".intercalate (axes.map Axis.name)
  if transforms.isEmpty then name
  else name ++ " (" ++ " ".intercalate (transforms.map Transform.name) ++ ")"

end Gridset

end Meteo.Grid
