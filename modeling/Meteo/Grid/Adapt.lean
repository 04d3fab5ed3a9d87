/-
# Meteo.Grid.Adapt -- a dataset seen as coverages with coordinate systems

Every data variable with a dimension becomes a coverage, except those that describe
a map projection or the bounds of a coordinate.  Its axes are the coordinates of
its dimensions, in order; an axis is made once and shared.  Its transforms are its
map projection and the vertical transforms of its coordinates.  Coverages with
axes and transforms of the same names form one gridset, in the order in which they
first occur.
-/
import Meteo.Grid.Coverage

namespace Meteo.Grid

set_option autoImplicit false

structure CoverageDataset where
  name : String
  grids : List Coverage
  gridsets : List Gridset
  attributes : Table Value

namespace CoverageDataset

def coordSystems (d : CoverageDataset) : List CoordSystem := d.gridsets.map Gridset.coordSystem

/-- All axes, the first of each name. -/
def axes (d : CoverageDataset) : List Axis := axesOf d.gridsets

/-- All transforms, the first of each name. -/
def transforms (d : CoverageDataset) : List Transform := transformsOf d.gridsets

/-- The first coverage of a name, without regard to case. -/
def find? (d : CoverageDataset) (name : String) : Option Coverage :=
  let wanted := Text.lower name
  d.grids.find? fun g => Text.lower g.name == wanted

def findAxis? (d : CoverageDataset) (name : String) : Option Axis :=
  d.axes.find? fun a => a.name == name

def read (d : CoverageDataset) (name : String) (criteria : Table Value) : Logged Extract :=
  match d.find? name with
  | some c => c.read criteria
  | none => Logged.fail (.coverageNotFound name (d.grids.map Coverage.name))

end CoverageDataset

namespace Adapt

/-- The names of the variables that others refer to as their projection or their bounds. -/
def auxiliary (ds : Dataset) : List String :=
  ds.vars.entries.flatMap fun e =>
    ["grid_mapping", "bounds"].filterMap fun key =>
      match e.2.attributes.get? key with
      | some (.string name) => if ds.vars.contains name then some name else none
      | _ => none

/-- The bounds of a coordinate, the dimension of the coordinate in front.  Bounds without it cannot
be used; bounds that are not there are reported. -/
def boundsOf (ds : Dataset) (dim : String) (coord : Variable) : Logged (Option Cells) :=
  match coord.attributes.get? "bounds" with
  | some (.string name) =>
      match ds.vars.get? name with
      | some b =>
          if b.dims.isEmpty || b.dims.head? = some dim then return some b.cells
          else
            match b.leading? dim with
            | some b => return some b.cells
            | none => Logged.fail (.fault .badValue)
      | none => do
          Logged.report Log.Level.warning source
            ("Bounds variable " ++ name ++ " of " ++ dim ++ " not found")
          return none
  | _ => return none

/-- A coordinate that makes no axis makes the dataset unusable; a number that is too large for its
type, or a value of the wrong kind, is a failure of its own. -/
def asProcessing (dim : String) (e : Error) : Error :=
  match e with
  | .fault .badValue => .processing (.axisConstruction dim) none
  | .coordinate .. | .invalid _ => .processing (.axisConstruction dim) e.message?
  | e => e

def buildAxis (ds : Dataset) (dim : String) (coord : Variable) : Logged Axis :=
  (do
    let bounds ← boundsOf ds dim coord
    Logged.lift (Axis.ofVariable coord bounds none)).mapError (asProcessing dim)

/-- The axis of a dimension, made before or now. -/
def sharedAxis (ds : Dataset) (made : List Axis) (dim : String) (coord : Variable) :
    Logged (Axis × List Axis) :=
  match made.find? fun a => a.name == dim with
  | some a => return (a, made)
  | none => do
      let a ← buildAxis ds dim coord
      return (a, made ++ [a])

def axesFor (ds : Dataset) (name : String) (made : List Axis) :
    List String → Logged (List Axis × List Transform × List Axis)
  | [] => return ([], [], made)
  | dim :: dims =>
      match (ds.vars.get? dim).filter fun _ => ds.isCoordinate dim with
      | none => do
          note ("Variable " ++ name ++ ": dimension " ++ dim ++ " has no coordinate")
          axesFor ds name made dims
      | some coord => do
          let (axis, made) ← sharedAxis ds made dim coord
          let (axes, transforms, made) ← axesFor ds name made dims
          return (axis :: axes, (Transform.ofVertical? coord).toList ++ transforms, made)

def mappingOf (ds : Dataset) (name : String) (v : Variable) : Logged (List Transform) :=
  match v.attributes.get? "grid_mapping" with
  | some (.string mapping) =>
      match ds.vars.get? mapping with
      | some m => do return [← Transform.ofMapping m none]
      | none => do
          Logged.report Log.Level.warning source
            ("Grid mapping " ++ mapping ++ " of " ++ name ++ " not found")
          return []
  | _ => return []

def matching (axes : List Axis) (transforms : List Transform) (g : Gridset) : Bool :=
  g.axes.map Axis.name == axes.map Axis.name &&
    g.transforms.map Transform.name == transforms.map Transform.name

/-- Puts a coverage into the gridset with its axes and transforms, a new one if there is none yet,
and tells the name of the gridset. -/
def place (gs : List Gridset) (axes : List Axis) (transforms : List Transform) (grid : String) :
    List Gridset × String :=
  match gs with
  | [] =>
      let name := Gridset.nameFor axes transforms
      ([⟨name, axes, transforms, [grid]⟩], name)
  | g :: rest =>
      if matching axes transforms g then ({ g with grids := g.grids ++ [grid] } :: rest, g.name)
      else
        let (rest, name) := place rest axes transforms grid
        (g :: rest, name)

def coverage (ds : Dataset) (name : String) (v : Variable) (axes : List Axis)
    (coordSystem : String) : Coverage :=
  { name
    attributes := v.attributes
    dataType := v.cells.type.text
    coordSystem
    units := Convention.attributeText v.attributes "units"
    description := Convention.descriptionText v.attributes
    verticalAxis := axes.find? fun a => a.kind.any AxisKind.isVertical
    data := some (Extract.ofDataset ds v) }

/-- The failure of a variable whose units or description have no text. -/
def requireTexts (v : Variable) : Logged Unit :=
  if Convention.isDescribed v.attributes then return () else Logged.fail (.fault .badValue)

def coverages (ds : Dataset) (skipped : List String) (made : List Axis) (gs : List Gridset) :
    List (String × Variable) → Logged (List Coverage × List Gridset)
  | [] => return ([], gs)
  | (name, v) :: rest =>
      if skipped.contains name || v.rank = 0 then do
        note ("Skipping auxiliary variable " ++ name)
        coverages ds skipped made gs rest
      else do
        let (axes, vertical, made) ← axesFor ds name made v.dims
        let transforms := (← mappingOf ds name v) ++ vertical
        let (gs, system) := place gs axes transforms name
        requireTexts v
        let (grids, gs) ← coverages ds skipped made gs rest
        return (coverage ds name v axes system :: grids, gs)

end Adapt

/-- The coverages of a dataset at a location, by default the path it was read from. -/
def CoverageDataset.ofDataset (ds : Dataset) (location : Option String) :
    Logged CoverageDataset := do
  let name := location.getD ds.sourceText
  let (grids, gridsets) ← Adapt.coverages ds (Adapt.auxiliary ds) [] [] ds.dataVariables
  Logged.report Log.Level.info source
    ("Adapted dataset " ++ Dataset.shownName name ++ ": " ++ Decimal.digitText grids.length ++
      " coverages in " ++ Decimal.digitText gridsets.length ++ " coordinate systems")
  return { name, grids, gridsets, attributes := ds.attributes }

end Meteo.Grid
