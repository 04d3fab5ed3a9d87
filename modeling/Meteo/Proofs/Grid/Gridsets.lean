/-
# Meteo.Proofs.Grid.Gridsets -- coverages fall into gridsets by axes and transforms

The coverages of a dataset are the variables that are no coordinates, have a dimension,
and to which no variable refers (`isCoverage`).  Each comes with a key: the dimensions
that have a coordinate, and its projection before the vertical transforms of those
dimensions (`keyOf`).  The adapter goes through the variables once, makes each axis once,
and appends each coverage to the gridset of its key.

What it has at any time are the classes of the coverages so far by their keys:
`place_keeps` is the step, `coverages_spec` the run.  The axes that are shared do not matter
for that, as an axis bears the name of its dimension whenever it was made
(`name_of_sharedAxis`).  What is true of all classes then is true of the gridsets
(`partition_of_classes`): every coverage is in one of them, two are in the same iff their
keys are equal, and the gridsets stand in the order of their first coverages.
-/
import Meteo.Grid.Adapt
import Meteo.Proofs.Axis.Build
import Meteo.Proofs.Classes
import Meteo.Proofs.Dataset
import Meteo.Proofs.Log
import Meteo.Proofs.Outcome
import Meteo.Proofs.Table

namespace Meteo

set_option autoImplicit false

namespace Grid

open Classes

/-! ## What a dataset says -/

/-- Whether a variable refers to a name as its projection or its bounds. -/
def refersTo (v : Variable) (name : String) : Bool :=
  ["grid_mapping", "bounds"].any fun key =>
    match v.attributes.get? key with
    | some (.string target) => target = name
    | _ => false

/-- Whether a variable is a coverage: it is no coordinate, has a dimension, and no variable refers
to it. -/
def isCoverage (ds : Dataset) (name : String) (v : Variable) : Bool :=
  !ds.isCoordinate name && !v.dims.isEmpty && !ds.vars.entries.any fun e => refersTo e.2 name

/-- The dimensions of a variable that have a coordinate. -/
def axisDims (ds : Dataset) (v : Variable) : List String := v.dims.filter ds.isCoordinate

/-- Whether the coordinate of a dimension has a formula. -/
def hasFormula (ds : Dataset) (dim : String) : Bool :=
  (ds.vars.get? dim).any fun coord => coord.attributes.contains "formula_terms"

/-- The projection that a variable refers to, if the dataset has it. -/
def mappingNames (ds : Dataset) (v : Variable) : List String :=
  match v.attributes.get? "grid_mapping" with
  | some (.string mapping) => if ds.vars.contains mapping then [mapping] else []
  | _ => []

/-- The names of the transforms of a variable: its projection, and the vertical ones in the order of
the dimensions. -/
def transformNames (ds : Dataset) (v : Variable) : List String :=
  mappingNames ds v ++ (axisDims ds v).filter (hasFormula ds)

/-- The names by which coverages fall into gridsets. -/
structure Key where
  axes : List String
  transforms : List String
deriving DecidableEq

/-- The names of the axes and of the transforms of a gridset. -/
def Gridset.key (g : Gridset) : Key := ⟨g.axes.map Axis.name, g.transforms.map Transform.name⟩

/-- The names of the axes and of the transforms of a variable. -/
def keyOf (ds : Dataset) (v : Variable) : Key := ⟨axisDims ds v, transformNames ds v⟩

/-! ## Axes and transforms of one variable -/

section Variables

variable {ds : Dataset}

theorem name_of_ofVariable {v : Variable} {bounds : Option Cells} {a : Axis}
    (made : Axis.ofVariable v bounds none = .ok a) : a.name = v.nameText := by
  obtain ⟨scale, -, rfl⟩ := Axis.eq_of_ofVariable made
  rfl

/-- The axis of a dimension is made of its coordinate and the bounds that are found for it. -/
theorem ofVariable_of_buildAxis {dim : String} {coord : Variable} {a : Axis}
    (made : (Adapt.buildAxis ds dim coord).result = .ok a) :
    ∃ bounds, (Adapt.boundsOf ds dim coord).result = .ok bounds ∧
      Axis.ofVariable coord bounds none = .ok a := by
  rw [Adapt.buildAxis, Logged.mapError] at made
  split at made
  · rw [Logged.result_bind] at made
    exact Outcome.bind_eq_ok.1 made
  · cases made

theorem name_of_buildAxis {dim : String} {coord : Variable} {a : Axis}
    (made : (Adapt.buildAxis ds dim coord).result = .ok a) : a.name = coord.nameText := by
  obtain ⟨bounds, -, axis⟩ := ofVariable_of_buildAxis made
  exact name_of_ofVariable axis

/-- An axis that is shared or made bears the name of its dimension. -/
theorem name_of_sharedAxis {made made' : List Axis} {dim : String} {coord : Variable} {a : Axis}
    (named : coord.nameText = dim)
    (shared : (Adapt.sharedAxis ds made dim coord).result = .ok (a, made')) : a.name = dim := by
  rw [Adapt.sharedAxis] at shared
  split at shared
  · next found =>
    cases shared
    exact eq_of_beq (List.find?_eq_some_iff_append.1 found).1
  · rw [Logged.result_bind] at shared
    obtain ⟨a', built, rest⟩ := Outcome.bind_eq_ok.1 shared
    cases rest
    exact (name_of_buildAxis built).trans named

/-- The coordinate of a dimension, if the dimension has one. -/
theorem coordinate_eq (ds : Dataset) (dim : String) :
    (ds.vars.get? dim).filter (fun _ => ds.isCoordinate dim) =
      if ds.isCoordinate dim then ds.vars.get? dim else none := by
  cases ds.vars.get? dim with
  | none => rw [Option.filter_none, ite_self]
  | some coord => exact Option.filter_some

theorem exists_coordinate {dim : String} (coordinate : ds.isCoordinate dim) :
    ∃ coord, ds.vars.get? dim = some coord := by
  have present : ds.vars.contains dim := (Bool.and_eq_true_iff.1 coordinate).1
  rw [Table.contains_eq_isSome] at present
  exact Option.isSome_iff_exists.1 present

/-- A coordinate has a vertical transform of its own name if it has a formula. -/
theorem names_ofVertical {dim : String} {coord : Variable} (found : ds.vars.get? dim = some coord)
    (own : coord.nameText = dim) :
    (Transform.ofVertical? coord).toList.map Transform.name =
      if hasFormula ds dim then [dim] else [] := by
  rw [hasFormula, found, Option.any_some, Table.contains_eq_isSome, Transform.ofVertical?]
  cases coord.attributes.get? "formula_terms" with
  | none => rfl
  | some terms => exact congrArg (fun n => [n]) own

/-- One step through the dimensions: a dimension without a coordinate is passed over, any other has
an axis in front of those of the dimensions behind it. -/
theorem axesFor_cons {name dim : String} {dims : List String} {made made' : List Axis}
    {axes : List Axis} {vertical : List Transform}
    (built : (Adapt.axesFor ds name made (dim :: dims)).result = .ok (axes, vertical, made')) :
    ¬ ds.isCoordinate dim ∧
      (Adapt.axesFor ds name made dims).result = .ok (axes, vertical, made') ∨
    ds.isCoordinate dim ∧ ∃ coord a made₁ axes' vertical', ds.vars.get? dim = some coord ∧
      (Adapt.sharedAxis ds made dim coord).result = .ok (a, made₁) ∧
      (Adapt.axesFor ds name made₁ dims).result = .ok (axes', vertical', made') ∧
      axes = a :: axes' ∧ vertical = (Transform.ofVertical? coord).toList ++ vertical' := by
  rw [Adapt.axesFor, coordinate_eq] at built
  by_cases coordinate : ds.isCoordinate dim
  · obtain ⟨coord, found⟩ := exists_coordinate coordinate
    simp only [if_pos coordinate, found, Logged.result_bind] at built
    obtain ⟨⟨a, made₁⟩, shared, rest⟩ := Outcome.bind_eq_ok.1 built
    obtain ⟨⟨axes', vertical', made₂⟩, later, last⟩ := Outcome.bind_eq_ok.1 rest
    cases last
    exact .inr ⟨coordinate, coord, a, made₁, axes', vertical', found, shared, later, rfl, rfl⟩
  · simp only [if_neg coordinate, Logged.result_bind, Grid.note] at built
    exact .inl ⟨coordinate, built⟩

/-- The axes are those of the dimensions with a coordinate, the vertical transforms those of the
coordinates with a formula. -/
theorem axesFor_spec (named : ds.WellNamed) {name : String} {made made' : List Axis}
    {dims : List String} {axes : List Axis} {vertical : List Transform}
    (built : (Adapt.axesFor ds name made dims).result = .ok (axes, vertical, made')) :
    axes.map Axis.name = dims.filter ds.isCoordinate ∧
      vertical.map Transform.name = (dims.filter ds.isCoordinate).filter (hasFormula ds) := by
  induction dims generalizing made axes vertical with
  | nil =>
      cases built
      exact ⟨rfl, rfl⟩
  | cons dim dims ih =>
      rcases axesFor_cons built with ⟨coordinate, later⟩ |
        ⟨coordinate, coord, a, made₁, axes', vertical', found, shared, later, rfl, rfl⟩
      · rw [List.filter_cons_of_neg coordinate]
        exact ih later
      · have own : coord.nameText = dim := named _ (Table.mem_of_get? found)
        obtain ⟨axisNames, verticalNames⟩ := ih later
        rw [List.filter_cons_of_pos coordinate, List.map_cons, name_of_sharedAxis own shared,
          axisNames, List.map_append, names_ofVertical found own, verticalNames]
        refine ⟨rfl, ?_⟩
        rw [List.filter_cons]
        split <;> rfl

theorem name_of_ofMapping {m : Variable} {t : Transform}
    (made : (Transform.ofMapping m none).result = .ok t) : t.name = m.nameText := by
  rw [Transform.ofMapping] at made
  split at made <;> cases made <;> rfl

/-- The projection of a variable bears the name that the variable gives it. -/
theorem mappingOf_spec (named : ds.WellNamed) {name : String} {v : Variable}
    {mapping : List Transform} (made : (Adapt.mappingOf ds name v).result = .ok mapping) :
    mapping.map Transform.name = mappingNames ds v := by
  rw [Adapt.mappingOf.eq_def] at made
  rw [mappingNames.eq_def]
  cases given : v.attributes.get? "grid_mapping" with
  | none =>
      rw [given] at made
      cases made
      rfl
  | some value =>
      rw [given] at made
      cases value with
      | string target =>
          dsimp only at made ⊢
          rw [Table.contains_eq_isSome]
          cases found : ds.vars.get? target with
          | none =>
              rw [found] at made
              cases made
              rfl
          | some m =>
              have own : m.nameText = target := named _ (Table.mem_of_get? found)
              rw [found, Logged.result_bind] at made
              obtain ⟨t, transform, rest⟩ := Outcome.bind_eq_ok.1 made
              cases rest
              rw [List.map_singleton, name_of_ofMapping transform, own]
              rfl
      | _ =>
          cases made
          rfl

end Variables

/-! ## Gridsets while coverages come in -/

/-- A gridset as the names by which coverages fall into it, and the coverages. -/
def Gridset.view (g : Gridset) : Key × List String := (g.key, g.grids)

theorem matching_iff {axes : List Axis} {transforms : List Transform} {g : Gridset} :
    Adapt.matching axes transforms g ↔
      g.key = ⟨axes.map Axis.name, transforms.map Transform.name⟩ := by
  rw [Adapt.matching, Bool.and_eq_true, beq_iff_eq, beq_iff_eq, Gridset.key, Key.mk.injEq]

/-- A coverage goes to the end of the gridset with its axes and transforms, or is the first one of
a new gridset behind the others. -/
theorem view_place (gs : List Gridset) (axes : List Axis) (transforms : List Transform)
    (grid : String) (distinct : (gs.map Gridset.key).Nodup) :
    let k : Key := ⟨axes.map Axis.name, transforms.map Transform.name⟩
    (Adapt.place gs axes transforms grid).1.map Gridset.view =
      if k ∈ gs.map Gridset.key then
        (gs.map Gridset.view).map fun c => (c.1, if c.1 = k then c.2 ++ [grid] else c.2)
      else gs.map Gridset.view ++ [(k, [grid])] := by
  intro k
  induction gs with
  | nil => rfl
  | cons g gs ih =>
      rw [List.map_cons, List.nodup_cons] at distinct
      rw [Adapt.place]
      by_cases same : g.key = k
      · have others : ∀ c ∈ gs.map Gridset.view,
            (c.1, if c.1 = k then c.2 ++ [grid] else c.2) = id c := by
          intro c member
          obtain ⟨g', listed, rfl⟩ := List.mem_map.1 member
          have apart : g'.key ≠ k := fun same' =>
            distinct.1 (List.mem_map.2 ⟨g', listed, same'.trans same.symm⟩)
          exact Prod.ext rfl (if_neg apart)
        rw [if_pos (matching_iff.2 same), List.map_cons, if_pos (by rw [← same]; simp),
          List.map_cons, List.map_cons, List.map_congr_left others, List.map_id]
        exact congrArg (· :: _) (Prod.ext rfl (if_pos same).symm)
      · rw [if_neg (fun matched => same (matching_iff.1 matched))]
        have other : g.view.1 ≠ k := same
        have elsewhere : k ∈ (g :: gs).map Gridset.key ↔ k ∈ gs.map Gridset.key :=
          List.mem_cons.trans (or_iff_right (Ne.symm same))
        rw [if_congr elsewhere rfl rfl, List.map_cons, ih distinct.2, List.map_cons, List.map_cons,
          if_neg other]
        split <;> rfl

/-- Gridsets that are the classes of some coverages remain so with a further coverage. -/
theorem place_keeps {gs : List Gridset} {placed : List (Key × String)}
    (sorted : gs.map Gridset.view = classes placed) (axes : List Axis)
    (transforms : List Transform) (grid : String) :
    (Adapt.place gs axes transforms grid).1.map Gridset.view =
      classes (placed ++ [(⟨axes.map Axis.name, transforms.map Transform.name⟩, grid)]) := by
  have keys : gs.map Gridset.key = (classes placed).map Prod.fst := by
    rw [← sorted, List.map_map]
    rfl
  have distinct : (gs.map Gridset.key).Nodup := keys ▸ nodup_classes placed
  have listed (k : Key) : k ∈ gs.map Gridset.key ↔ k ∈ placed.map Prod.fst :=
    keys ▸ mem_keys_classes
  rw [view_place gs axes transforms grid distinct, classes_concat, sorted]
  exact if_congr (listed _) rfl rfl

section Coverages

variable {ds : Dataset}

/-- One step through the variables: a variable is skipped, or it becomes a coverage with axes of its
own that is placed before the others are. -/
theorem coverages_cons {skipped : List String} {made : List Axis} {gs gs' : List Gridset}
    {name : String} {v : Variable} {vars : List (String × Variable)} {grids : List Coverage}
    (adapted : (Adapt.coverages ds skipped made gs ((name, v) :: vars)).result =
      .ok (grids, gs')) :
    (skipped.contains name || v.rank = 0) ∧
      (Adapt.coverages ds skipped made gs vars).result = .ok (grids, gs') ∨
    ¬ (skipped.contains name || v.rank = 0) ∧
      ∃ axes vertical made' mapping rest,
        (Adapt.axesFor ds name made v.dims).result = .ok (axes, vertical, made') ∧
        (Adapt.mappingOf ds name v).result = .ok mapping ∧
        (Adapt.coverages ds skipped made' (Adapt.place gs axes (mapping ++ vertical) name).1
          vars).result = .ok (rest, gs') ∧
        grids = Adapt.coverage ds name v axes
          (Adapt.place gs axes (mapping ++ vertical) name).2 :: rest := by
  rw [Adapt.coverages] at adapted
  by_cases skip : skipped.contains name || v.rank = 0
  · rw [if_pos skip, Logged.result_bind] at adapted
    exact .inl ⟨skip, adapted⟩
  · rw [if_neg skip] at adapted
    simp only [Logged.result_bind] at adapted
    obtain ⟨⟨axes, vertical, made'⟩, built, adapted⟩ := Outcome.bind_eq_ok.1 adapted
    obtain ⟨mapping, mapped, adapted⟩ := Outcome.bind_eq_ok.1 adapted
    obtain ⟨-, -, adapted⟩ := Outcome.bind_eq_ok.1 adapted
    obtain ⟨⟨rest, gs₁⟩, later, last⟩ := Outcome.bind_eq_ok.1 adapted
    cases last
    exact .inr ⟨skip, axes, vertical, made', mapping, rest, built, mapped, later, rfl⟩

/-- The names by which a variable is placed are its own. -/
theorem key_of_built (named : ds.WellNamed) {name : String} {v : Variable} {made made' : List Axis}
    {axes : List Axis} {vertical mapping : List Transform}
    (built : (Adapt.axesFor ds name made v.dims).result = .ok (axes, vertical, made'))
    (mapped : (Adapt.mappingOf ds name v).result = .ok mapping) :
    Key.mk (axes.map Axis.name) ((mapping ++ vertical).map Transform.name) = keyOf ds v := by
  obtain ⟨axisNames, verticalNames⟩ := axesFor_spec named built
  rw [axisNames, List.map_append, verticalNames, mappingOf_spec named mapped]
  rfl

/-- The coverages are the variables that are not skipped and have a dimension, and the gridsets are
their classes. -/
theorem coverages_spec (named : ds.WellNamed) {skipped : List String} {made : List Axis}
    {gs gs' : List Gridset} {vars : List (String × Variable)} {placed : List (Key × String)}
    {grids : List Coverage} (sorted : gs.map Gridset.view = classes placed)
    (adapted : (Adapt.coverages ds skipped made gs vars).result = .ok (grids, gs')) :
    let covered := vars.filter fun e => !(skipped.contains e.1 || e.2.rank = 0)
    grids.map Coverage.name = covered.map Prod.fst ∧
      gs'.map Gridset.view = classes (placed ++ covered.map fun e => (keyOf ds e.2, e.1)) := by
  intro covered
  induction vars generalizing made gs placed grids with
  | nil =>
      cases adapted
      exact ⟨rfl, sorted.trans (congrArg classes (List.append_nil _).symm)⟩
  | cons e vars ih =>
      obtain ⟨name, v⟩ := e
      rcases coverages_cons adapted with ⟨skip, adapted⟩ |
        ⟨skip, axes, vertical, made', mapping, rest, built, mapped, later, rfl⟩
      · have others := ih sorted adapted
        have same : covered = vars.filter fun e => !(skipped.contains e.1 || e.2.rank = 0) :=
          List.filter_cons_of_neg (by rw [skip]; exact Bool.false_ne_true)
        rw [same]
        exact others
      · have placed' := place_keeps sorted axes (mapping ++ vertical) name
        rw [key_of_built named built mapped] at placed'
        obtain ⟨names, views⟩ := ih placed' later
        have first : covered = (name, v) :: vars.filter fun e =>
            !(skipped.contains e.1 || e.2.rank = 0) :=
          List.filter_cons_of_pos (by simpa using skip)
        rw [first]
        exact ⟨congrArg (name :: ·) names, views.trans (congrArg classes (by simp))⟩

/-- A variable is skipped if some variable refers to it. -/
theorem mem_auxiliary {name : String} :
    name ∈ Adapt.auxiliary ds ↔
      ds.vars.contains name ∧ ∃ e ∈ ds.vars.entries, refersTo e.2 name := by
  rw [Adapt.auxiliary, List.mem_flatMap]
  have one (v : Variable) (key : String) :
      (match v.attributes.get? key with
        | some (.string target) => if ds.vars.contains target then some target else none
        | _ => none) = some name ↔
      ds.vars.contains name ∧
        (match v.attributes.get? key with
          | some (.string target) => decide (target = name)
          | _ => false) = true := by
    split
    · next target _ =>
      by_cases same : target = name
      · subst same
        simp
      · simp [same]
    · simp
  constructor
  · rintro ⟨e, listed, member⟩
    obtain ⟨key, either, refers⟩ := List.mem_filterMap.1 member
    obtain ⟨present, refers⟩ := (one e.2 key).1 refers
    exact ⟨present, e, listed, List.any_eq_true.2 ⟨key, either, refers⟩⟩
  · rintro ⟨present, e, listed, refers⟩
    obtain ⟨key, either, refers⟩ := List.any_eq_true.1 refers
    exact ⟨e, listed, List.mem_filterMap.2 ⟨key, either, (one e.2 key).2 ⟨present, refers⟩⟩⟩

/-- The variables with a dimension that are not skipped are the coverages. -/
theorem covered_eq (fit : ds.WellFormed) :
    (ds.dataVariables.filter fun e => !((Adapt.auxiliary ds).contains e.1 || e.2.rank = 0)) =
      ds.vars.entries.filter fun e => isCoverage ds e.1 e.2 := by
  rw [Dataset.dataVariables, List.filter_filter]
  refine List.filter_congr fun e member => ?_
  have present : ds.vars.contains e.1 := List.contains_iff_mem.2 (List.mem_map_of_mem member)
  have skipped : (Adapt.auxiliary ds).contains e.1 =
      ds.vars.entries.any fun other => refersTo other.2 e.1 := by
    rw [Bool.eq_iff_iff, List.contains_iff_mem, mem_auxiliary, List.any_eq_true]
    exact and_iff_right present
  have flat : decide (e.2.rank = 0) = e.2.dims.isEmpty := by
    rw [Variable.rank, Cells.shape, ← Dataset.length_shape (fit e member)]
    cases e.2.dims <;> rfl
  rw [skipped, flat, isCoverage, Bool.not_or]
  ac_rfl

end Coverages

/-! ## The gridsets of a dataset -/

/-- The coverages of a dataset under their names, as declared. -/
def covered (ds : Dataset) : List (String × Variable) :=
  ds.vars.entries.filter fun e => isCoverage ds e.1 e.2

/-- The coverages of a dataset fall into gridsets by their axes and transforms. -/
structure Partition (ds : Dataset) (d : CoverageDataset) : Prop where
  /-- The coverages are those of the dataset, in order. -/
  names : d.grids.map Coverage.name = (covered ds).map Prod.fst
  /-- No two coverages have one name. -/
  distinct : (d.grids.map Coverage.name).Nodup
  /-- Every coverage is in one gridset, once, and nothing else is in any. -/
  once : (d.gridsets.flatMap Gridset.grids).Perm (d.grids.map Coverage.name)
  /-- Coverages share a gridset iff they have the same axes and transforms. -/
  shared : ∀ e ∈ covered ds, ∀ e' ∈ covered ds,
    (∃ g ∈ d.gridsets, e.1 ∈ g.grids ∧ e'.1 ∈ g.grids) ↔
      axisDims ds e.2 = axisDims ds e'.2 ∧ transformNames ds e.2 = transformNames ds e'.2
  /-- A gridset has coverages, and has them in order. -/
  inside : ∀ g ∈ d.gridsets, g.grids ≠ [] ∧ g.grids.Sublist (d.grids.map Coverage.name)
  /-- The first coverage of a gridset precedes all coverages of later gridsets. -/
  ordered : d.gridsets.Pairwise fun g g' => ∃ first, g.grids.head? = some first ∧
    ∀ name ∈ g'.grids, [first, name].Sublist (d.grids.map Coverage.name)

section Classes

variable {ds : Dataset}

/-- The names of the coverages, each under its axes and transforms. -/
def items (ds : Dataset) : List (Key × String) := (covered ds).map fun e => (keyOf ds e.2, e.1)

theorem nodup_covered (ds : Dataset) : ((covered ds).map Prod.fst).Nodup :=
  (List.filter_sublist.map Prod.fst).nodup ds.vars.nodup

/-- A coverage is under its own axes and transforms only. -/
theorem mem_items {e : String × Variable} (member : e ∈ covered ds) {k : Key} :
    (k, e.1) ∈ items ds ↔ k = keyOf ds e.2 := by
  constructor
  · intro listed
    obtain ⟨e', member', same⟩ := List.mem_map.1 listed
    obtain ⟨key, name⟩ := Prod.mk.inj same
    rw [← key, List.inj_on_of_nodup_map (nodup_covered ds) member' member name]
  · rintro rfl
    exact List.mem_map_of_mem member

/-- A gridset of the classes of the coverages has the coverages of its key. -/
theorem grids_of_classes {d : CoverageDataset}
    (views : d.gridsets.map Gridset.view = classes (items ds)) {g : Gridset}
    (member : g ∈ d.gridsets) :
    g.key ∈ (items ds).map Prod.fst ∧ g.grids = under g.key (items ds) :=
  mem_classes.1 (views ▸ List.mem_map_of_mem member : g.view ∈ classes (items ds))

/-- Gridsets that are the classes of the coverages partition them. -/
theorem partition_of_classes {d : CoverageDataset}
    (names : d.grids.map Coverage.name = (covered ds).map Prod.fst)
    (views : d.gridsets.map Gridset.view = classes (items ds)) : Partition ds d := by
  have listed : (items ds).map Prod.snd = d.grids.map Coverage.name := by
    rw [names, items, List.map_map]
    rfl
  have class_of {g : Gridset} (member : g ∈ d.gridsets) := grids_of_classes views member
  constructor
  case names => exact names
  case distinct => exact names ▸ nodup_covered ds
  case once =>
    have all := perm_classes (items ds)
    rw [← views, List.flatMap_map, listed] at all
    exact all
  case shared =>
    intro e member e' member'
    rw [← Key.mk.injEq, ← keyOf, ← keyOf]
    constructor
    · rintro ⟨g, placed, item, item'⟩
      rw [(class_of placed).2, mem_under] at item item'
      exact ((mem_items member).1 item).symm.trans ((mem_items member').1 item')
    · intro same
      have item : (keyOf ds e.2, e.1) ∈ items ds := (mem_items member).2 rfl
      have item' : (keyOf ds e.2, e'.1) ∈ items ds := (mem_items member').2 same
      have listed : (keyOf ds e.2, under (keyOf ds e.2) (items ds)) ∈ classes (items ds) :=
        mem_classes.2 ⟨List.mem_map_of_mem item, rfl⟩
      rw [← views] at listed
      obtain ⟨g, placed, view⟩ := List.mem_map.1 listed
      have grids : g.grids = under (keyOf ds e.2) (items ds) := congrArg Prod.snd view
      exact ⟨g, placed, grids ▸ mem_under.2 item, grids ▸ mem_under.2 item'⟩
  case inside =>
    intro g placed
    obtain ⟨key, grids⟩ := class_of placed
    rw [grids]
    obtain ⟨⟨k, name⟩, item, rfl⟩ := List.mem_map.1 key
    exact ⟨List.ne_nil_of_mem (mem_under.2 item), listed ▸ under_sublist _ _⟩
  case ordered =>
    have order := classes_ordered (items ds)
    rw [← views, List.pairwise_map, listed] at order
    exact order

end Classes

/-- The coverages of a dataset that is adapted are partitioned into gridsets. -/
theorem partition_of_ofDataset {ds : Dataset} {vars : List Variable} {attributes : Table Value}
    {declared : List String} {source : Option String} {location : Option String}
    {d : CoverageDataset}
    (stored : Dataset.ofVariables vars attributes declared source = .ok ds)
    (adapted : (CoverageDataset.ofDataset ds location).result = .ok d) : Partition ds d := by
  rw [CoverageDataset.ofDataset, Logged.result_bind] at adapted
  obtain ⟨⟨grids, gridsets⟩, made, last⟩ := Outcome.bind_eq_ok.1 adapted
  cases last
  have empty : ([] : List Gridset).map Gridset.view = classes ([] : List (Key × String)) := rfl
  obtain ⟨names, views⟩ := coverages_spec (Dataset.wellNamed_of_ofVariables stored) empty made
  rw [covered_eq (Dataset.wellFormed_of_ofVariables stored), ← covered] at names views
  exact partition_of_classes names views

/-- Two fields on levels, one at the surface, and the bounds of the latitudes. -/
def layered : List Variable :=
  [{ name := some "lat", dims := ["lat"]
     attributes := Table.ofList [("units", .string "degrees_north"), ("bounds", .string "edges")]
     cells := ⟨.float64, ⟨[3], #v[.value (.float 1.0), .value (.float 2.0),
       .value (.float 3.0)]⟩⟩ },
    { name := some "lev", dims := ["lev"]
      attributes := Table.ofList [("formula_terms", .string "ps: rain")]
      cells := ⟨.float64, ⟨[1], #v[.value (.float 0.5)]⟩⟩ },
    { name := some "edges", dims := ["lat", "side"], attributes := .empty
      cells := ⟨.float64, ⟨[3, 2], #v[.value (.float 0.5), .value (.float 1.5),
        .value (.float 1.5), .value (.float 2.5), .value (.float 2.5), .value (.float 3.5)]⟩⟩ },
    { name := some "temp", dims := ["lev", "lat"]
      attributes := Table.ofList [("grid_mapping", .string "crs")]
      cells := ⟨.signed 64, ⟨[1, 3], #v[.value (.int 1), .value (.int 2), .value (.int 3)]⟩⟩ },
    { name := some "rain", dims := ["lat"]
      attributes := Table.ofList [("grid_mapping", .string "crs")]
      cells := ⟨.signed 64, ⟨[3], #v[.value (.int 4), .value (.int 5), .value (.int 6)]⟩⟩ },
    { name := some "wind", dims := ["lev", "lat"]
      attributes := Table.ofList [("grid_mapping", .string "crs")]
      cells := ⟨.signed 64, ⟨[1, 3], #v[.value (.int 7), .value (.int 8), .value (.int 9)]⟩⟩ },
    { name := some "crs", dims := [], attributes := .empty
      cells := ⟨.signed 64, ⟨[], #v[.value (.int 0)]⟩⟩ }]

theorem partition_of_ofDataset_layered :
    ∃ ds d, Dataset.ofVariables layered .empty [] none = .ok ds ∧
      (CoverageDataset.ofDataset ds none).result = .ok d ∧
      d.gridsets.map Gridset.view =
        [(⟨["lev", "lat"], ["crs", "lev"]⟩, ["temp", "wind"]), (⟨["lat"], ["crs"]⟩, ["rain"])] ∧
      Partition ds d := by
  let views (d : CoverageDataset) : List (Key × List String) := d.gridsets.map Gridset.view
  obtain ⟨ds, made, shown⟩ : ∃ ds, Dataset.ofVariables layered .empty [] none = .ok ds ∧
      (CoverageDataset.ofDataset ds none).result.toOption.map views = some
        [(⟨["lev", "lat"], ["crs", "lev"]⟩, ["temp", "wind"]), (⟨["lat"], ["crs"]⟩, ["rain"])] :=
    ⟨_, rfl, by decide +kernel⟩
  cases adapted : (CoverageDataset.ofDataset ds none).result with
  | error e => rw [adapted] at shown; cases shown
  | ok d =>
      rw [adapted] at shown
      exact ⟨ds, d, made, adapted, Option.some.inj shown, partition_of_ofDataset made adapted⟩

end Grid

end Meteo
