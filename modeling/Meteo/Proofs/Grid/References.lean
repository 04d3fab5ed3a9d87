/-
# Meteo.Proofs.Grid.References -- references to axes and transforms by name

The coordinate systems of a dataset name their axes and transforms, and these are listed
once for the whole dataset.  `references_of_ofDataset` says that no such name dangles or
leads to anything else than what its gridset holds: there is one axis of each name in a
dataset, so it does not matter which one of that name is listed.  What is listed comes
from some gridset.

An axis has as many samples as its coordinate has cells.  That is the length of the
dimension of its name if the coordinate runs along that dimension, which a dataset does not
ask of it (`RunsAlong`).
-/
import Meteo.Proofs.Grid.Coverages
import Meteo.Proofs.Grid.Firsts

namespace Meteo

set_option autoImplicit false

/-- The coordinate of a dimension runs along it, and along nothing else. -/
def Dataset.RunsAlong (ds : Dataset) (dim : String) : Prop :=
  ∀ coord, ds.vars.get? dim = some coord → coord.dims = [dim]

instance (ds : Dataset) (dim : String) : Decidable (ds.RunsAlong dim) :=
  decidable_of_iff ((ds.vars.get? dim).all fun coord => coord.dims = [dim])
    (by simp only [Option.all_eq_true, decide_eq_true_eq, Dataset.RunsAlong])

namespace Grid

/-- Whether an axis runs up or down. -/
def isVertical (a : Axis) : Bool := a.kind.any AxisKind.isVertical

/-- The names by which coordinate systems refer to axes and transforms lead to those that their
gridsets hold. -/
structure References (ds : Dataset) (d : CoverageDataset) : Prop where
  /-- No two axes of the dataset have one name. -/
  axes_distinct : (d.axes.map Axis.name).Nodup
  /-- No two transforms of the dataset have one name. -/
  transforms_distinct : (d.transforms.map Transform.name).Nodup
  /-- Under the names that a coordinate system lists stand the axes of its gridset. -/
  resolved : ∀ g ∈ d.gridsets, g.coordSystem.axes.map d.findAxis? = g.axes.map some
  /-- An axis has as many samples as the dimension of its name is long, if its coordinate runs
  along that dimension. -/
  sizes : ∀ g ∈ d.gridsets, ∀ a ∈ g.axes, ds.RunsAlong a.name →
    ds.sizeOf? a.name = some a.scale.size
  /-- Every coverage is in a gridset. -/
  placed : ∀ c ∈ d.grids, ∃ g ∈ d.gridsets, c.name ∈ g.grids
  /-- A coverage bears the name of the coordinate system of its gridset, and its vertical axis is
  the first vertical one among the axes that this coordinate system lists. -/
  vertical : ∀ c ∈ d.grids, ∀ g ∈ d.gridsets, c.name ∈ g.grids →
    c.coordSystem = g.coordSystem.name ∧
      c.verticalAxis = (g.coordSystem.axes.filterMap d.findAxis?).find? isVertical
  /-- The transforms that a coordinate system names are listed. -/
  transforms_listed : ∀ s ∈ d.coordSystems, ∀ name ∈ s.transforms,
    name ∈ d.transforms.map Transform.name
  /-- Every axis that is listed is one of a gridset. -/
  axes_used : ∀ a ∈ d.axes, ∃ g ∈ d.gridsets, a ∈ g.axes
  /-- Every transform that is listed is one of a gridset. -/
  transforms_used : ∀ t ∈ d.transforms, ∃ g ∈ d.gridsets, t ∈ g.transforms

variable {ds : Dataset} {d : CoverageDataset}

/-- An axis has as many samples as its dimension is long. -/
theorem sizeOf?_of_isAxis (fit : ds.WellFormed) {a : Axis} (made : IsAxis ds a)
    (along : ds.RunsAlong a.name) : ds.sizeOf? a.name = some a.scale.size := by
  obtain ⟨coord, found, built⟩ := made
  obtain ⟨bounds, -, axis⟩ := ofVariable_of_buildAxis built
  obtain ⟨n, shape, size⟩ := Dataset.shape_one (fit _ (Table.mem_of_get? found)) (along coord found)
  have cells : coord.cells.block.shape = [a.scale.size] := Axis.shape_of_ofVariable axis
  rw [shape] at cells
  rw [size, (List.cons.inj cells).1]

/-- Under the name of an axis of a gridset stands that axis. -/
theorem findAxis?_of_mem (described : Described ds d) {g : Gridset} (placed : g ∈ d.gridsets)
    {a : Axis} (member : a ∈ g.axes) : d.findAxis? a.name = some a := by
  have all (b : Axis) (listed : b ∈ d.gridsets.flatMap Gridset.axes) : IsAxis ds b := by
    obtain ⟨g', placed', member'⟩ := List.mem_flatMap.1 listed
    exact (described.sound g' placed').axes b member'
  have listed : a ∈ d.gridsets.flatMap Gridset.axes := List.mem_flatMap.2 ⟨g, placed, member⟩
  exact find?_firsts_of_unique listed fun b other same => (all b other).unique (all a listed) same

/-- The axes of a gridset stand under the names that its coordinate system lists. -/
theorem map_findAxis? (described : Described ds d) {g : Gridset} (placed : g ∈ d.gridsets) :
    g.coordSystem.axes.map d.findAxis? = g.axes.map some := by
  rw [Gridset.coordSystem, List.map_map]
  exact List.map_congr_left fun a member => findAxis?_of_mem described placed member

theorem filterMap_findAxis? (described : Described ds d) {g : Gridset} (placed : g ∈ d.gridsets) :
    g.coordSystem.axes.filterMap d.findAxis? = g.axes :=
  calc g.coordSystem.axes.filterMap d.findAxis?
      = (g.coordSystem.axes.map d.findAxis?).filterMap id := by rw [List.filterMap_map]; rfl
    _ = (g.axes.map some).filterMap id := by rw [map_findAxis? described placed]
    _ = g.axes := by rw [List.filterMap_map]; exact List.filterMap_some

/-- A coverage and its gridset have the same axes. -/
theorem eq_axes_of_mem (described : Described ds d) {e : String × Variable}
    (member : e ∈ covered ds) {axes : List Axis} (names : axes.map Axis.name = axisDims ds e.2)
    (made : ∀ a ∈ axes, IsAxis ds a) {g : Gridset} (placed : g ∈ d.gridsets)
    (has : e.1 ∈ g.grids) : g.axes = axes := by
  refine eq_of_names (described.sound g placed).axes made ?_
  rw [names]
  exact congrArg Key.axes (described.key_of_mem member placed has)

/-- No reference of a dataset dangles or leads elsewhere. -/
theorem references_of_ofDataset {vars : List Variable} {attributes : Table Value}
    {declared : List String} {source : Option String} {location : Option String}
    (stored : Dataset.ofVariables vars attributes declared source = .ok ds)
    (adapted : (CoverageDataset.ofDataset ds location).result = .ok d) : References ds d := by
  have described := described_of_ofDataset stored adapted
  constructor
  case axes_distinct => exact nodup_firsts Axis.name _
  case transforms_distinct => exact nodup_firsts Transform.name _
  case resolved => exact fun g placed => map_findAxis? described placed
  case sizes =>
    intro g placed a member along
    exact sizeOf?_of_isAxis (Dataset.wellFormed_of_ofVariables stored)
      ((described.sound g placed).axes a member) along
  case placed =>
    intro c listed
    obtain ⟨e, member, axes, -, -, rfl⟩ := described.exists_variable listed
    obtain ⟨g, placed, -, has⟩ := described.exists_gridset member
    exact ⟨g, placed, has⟩
  case vertical =>
    intro c listed g placed has
    obtain ⟨e, member, axes, names, made, rfl⟩ := described.exists_variable listed
    constructor
    · exact ((described.sound g placed).named.trans
        (congrArg Key.text (described.key_of_mem member placed has))).symm
    · rw [filterMap_findAxis? described placed,
        eq_axes_of_mem described member names made placed has]
      rfl
  case transforms_listed =>
    intro s listed name member
    obtain ⟨g, placed, rfl⟩ := List.mem_map.1 listed
    obtain ⟨t, held, rfl⟩ := List.mem_map.1 member
    exact name_mem_firsts (List.mem_flatMap.2 ⟨g, placed, held⟩)
  case axes_used =>
    intro a listed
    exact List.mem_flatMap.1 ((firsts_sublist _ _).subset listed)
  case transforms_used =>
    intro t listed
    exact List.mem_flatMap.1 ((firsts_sublist _ _).subset listed)

/-- Two fields along levels and latitudes, which they have in different orders. -/
def crossed : List Variable :=
  let field (name : String) (dims : List String) (block : Block Cell) : Variable :=
    { name := some name, dims, attributes := .empty, cells := ⟨.signed 64, block⟩ }
  [{ name := some "lat", dims := ["lat"]
     attributes := Table.ofList [("units", .string "degrees_north")]
     cells := ⟨.float64, ⟨[3], #v[.value (.float 40.0), .value (.float 41.0),
       .value (.float 43.0)]⟩⟩ },
    { name := some "lev", dims := ["lev"]
      attributes := Table.ofList [("units", .string "hPa")]
      cells := ⟨.float64, ⟨[2], #v[.value (.float 850.0), .value (.float 500.0)]⟩⟩ },
    field "temp" ["lev", "lat"] ⟨[2, 3], #v[.value (.int 1), .value (.int 2), .value (.int 3),
      .value (.int 4), .value (.int 5), .value (.int 6)]⟩,
    field "wind" ["lat", "lev"] ⟨[3, 2], #v[.value (.int 1), .value (.int 2), .value (.int 3),
      .value (.int 4), .value (.int 5), .value (.int 6)]⟩]

theorem references_of_ofDataset_crossed :
    ∃ ds d, Dataset.ofVariables crossed .empty [] none = .ok ds ∧
      (CoverageDataset.ofDataset ds none).result = .ok d ∧
      ds.RunsAlong "lev" ∧ ds.RunsAlong "lat" ∧
      d.grids.map (fun c => c.verticalAxis.map Axis.name) = [some "lev", some "lev"] ∧
      References ds d := by
  let levels (d : CoverageDataset) : List (Option String) :=
    d.grids.map fun c => c.verticalAxis.map Axis.name
  obtain ⟨ds, made, lev, lat, shown⟩ : ∃ ds, Dataset.ofVariables crossed .empty [] none = .ok ds ∧
      ds.RunsAlong "lev" ∧ ds.RunsAlong "lat" ∧
      (CoverageDataset.ofDataset ds none).result.toOption.map levels =
        some [some "lev", some "lev"] :=
    ⟨_, rfl, by decide +kernel, by decide +kernel, by decide +kernel⟩
  cases adapted : (CoverageDataset.ofDataset ds none).result with
  | error e => rw [adapted] at shown; cases shown
  | ok d =>
      rw [adapted] at shown
      exact ⟨ds, d, made, adapted, lev, lat, Option.some.inj shown,
        references_of_ofDataset made adapted⟩

end Grid

end Meteo
