/-
# Meteo.Proofs.Grid.Levels -- the levels of a coverage

Of all criteria only the vertical one decides what is read of a coverage.  It asks for the
level to which its position belongs, and what is read is one index of the dimension of the
vertical axis and everything of the others, in the variable and in its coordinates
(`Extract.IsLevel`).  `reads_of_ofDataset` says so of every coverage of a dataset.

The index is that of a sample of the axis, of which there are as many as its coordinate has
cells.  A coordinate need not run along the dimension of its name, and then the dimension may
end before the index: nothing is left of it (`not_singleLevels`).

Asked for by its own position, a level with a cell is found, or the neighbour that owns the
edge on which the position lies (`findLevel_own`).
-/
import Meteo.Proofs.Axis.Samples
import Meteo.Proofs.Cells
import Meteo.Proofs.Grid.References
import Meteo.Proofs.Log
import Meteo.Proofs.Slice

namespace Meteo.Grid

set_option autoImplicit false

/-! ## Criteria -/

namespace Coverage

/-- The level that criteria ask for is decided by what stands under the vertical key. -/
theorem result_levelFrom (c : Coverage) (level : Option Nat) {es : List (String × Value)}
    (distinct : (es.map Prod.fst).Nodup) :
    (c.levelFrom level es).result =
      match es.lookup Criterion.verticalKey with
      | none => .ok level
      | some v => Criterion.number Criterion.verticalKey v >>= fun x =>
          (c.findLevel x).result >>= fun k => .ok (some k) := by
  induction es generalizing level with
  | nil => rfl
  | cons e es ih =>
      obtain ⟨key, v⟩ := e
      rw [List.map_cons, List.nodup_cons] at distinct
      rw [levelFrom]
      by_cases vertical : key = Criterion.verticalKey
      · have behind : es.lookup Criterion.verticalKey = none :=
          List.lookup_eq_none_iff.2 fun e member => bne_iff_ne.2 fun same =>
            distinct.1 (List.mem_map.2 ⟨e, member, same.symm.trans vertical.symm⟩)
        have later (k : Nat) : (c.levelFrom (some k) es).result = .ok (some k) := by
          rw [ih _ distinct.2, behind]
        rw [if_pos vertical, vertical, List.lookup_cons_self]
        simp only [Logged.result_bind, Logged.result_lift, later]
      · have other : (Criterion.verticalKey == key) = false := beq_false_of_ne (Ne.symm vertical)
        rw [if_neg vertical, Logged.result_bind, List.lookup_cons, other]
        exact ih level distinct.2

/-- What is kept of data when a level is asked for. -/
def keep (c : Coverage) (data : Extract) (level : Option Nat) : Extract :=
  match level, c.verticalDim with
  | some k, some dim => data.only dim k
  | _, _ => data

theorem result_read {c : Coverage} {data : Extract} (here : c.data = some data)
    (criteria : Table Value) : (c.read criteria).result =
      (c.levelFrom none criteria.entries).result >>= fun level => .ok (c.keep data level) := by
  rw [read, here]
  simp only [Logged.result_bind]
  congr 1
  funext level
  rw [keep.eq_def]
  cases level with
  | none => rfl
  | some k => cases c.verticalDim <;> rfl

end Coverage

section Axes

variable {ds : Dataset}

/-- What is found on an axis is the index of a sample. -/
theorem result_find {a : Axis} {x : Float} {k : Nat} :
    (a.find x).result = .ok k ↔ ∃ i, a.scale.find x = .ok i ∧ i.val = k := by
  rw [Axis.find, show (DoubleOrdinate.ofDouble x : Float) = x from rfl]
  cases a.scale.find x with
  | error e => exact ⟨nofun, nofun⟩
  | ok i =>
      have index : (if a.scale.size ≠ 1 then
          Logged.report Log.Level.debug Axis.source ("Axis " ++ a.name ++ ": value " ++
            Double.text x ++ " -> index " ++ Decimal.digitText i) >>= fun _ => pure i.val
          else (pure i.val : Logged Nat)).result = .ok i.val := by
        split <;> rfl
      refine (Eq.congr_left index).trans ⟨fun same => ⟨i, rfl, Except.ok.inj same⟩, ?_⟩
      rintro ⟨j, same, rfl⟩
      rw [Except.ok.inj same]

/-- The vertical axis of a coverage is one of the axes of its dataset, for a dimension of its own. -/
theorem vertical_of_describes {e : String × Variable} {c : Coverage} (describes : Describes ds e c)
    {a : Axis} (vertical : c.verticalAxis = some a) :
    IsAxis ds a ∧ a.name ∈ e.2.dims ∧ ds.isCoordinate a.name := by
  obtain ⟨axes, names, made, rfl⟩ := describes
  have listed : a ∈ axes := List.mem_of_find?_eq_some vertical
  have own : a.name ∈ axisDims ds e.2 := names ▸ List.mem_map_of_mem listed
  obtain ⟨dimension, coordinate⟩ := List.mem_filter.1 own
  exact ⟨made a listed, dimension, coordinate⟩

theorem exists_sizeOf? (fit : ds.WellFormed) {e : String × Variable} (stored : e ∈ ds.vars.entries)
    {dim : String} (member : dim ∈ e.2.dims) : ∃ n, ds.sizeOf? dim = some n := by
  have named : (e.2.dims.zip e.2.cells.block.shape).map Prod.fst = e.2.dims :=
    List.map_fst_zip (Nat.le_of_eq (Dataset.length_shape (fit e stored)))
  obtain ⟨⟨d, n⟩, sized, rfl⟩ := List.mem_map.1 (named.symm ▸ member)
  exact ⟨n, Dataset.sizeOf?_of_mem_zip (fit e stored) d n sized⟩

end Axes

/-! ## What is read -/

/-- Data with a single level: `count` indices of one dimension, from `k` on, of a variable and its
coordinates. -/
structure Extract.IsLevel (level data : Extract) (dim : String) (k count : Nat) : Prop where
  vertical : dim ∈ data.variable_.dims
  cells : level.variable_.IsSlice data.variable_ dim k count
  coordinates : List.Forall₂
    (fun part whole => part.1 = whole.1 ∧ part.2.IsSlice whole.2 dim k count)
    level.coordinates data.coordinates

section Reading

variable {ds : Dataset}

theorem mem_of_coordinate? {v : Variable} {dim : String} {e : String × Variable}
    (found : Extract.coordinate? ds v dim = some e) : e ∈ ds.vars.entries := by
  rw [Extract.coordinate?] at found
  split at found
  · next c there =>
    split at found
    · cases found
      exact Table.mem_of_get? there
    · cases found
  · cases found

/-- A dimension that its coordinate runs along is read with that coordinate. -/
theorem mem_coordinates {v : Variable} {dim : String} {coord : Variable} (member : dim ∈ v.dims)
    (coordinate : ds.isCoordinate dim) (found : ds.vars.get? dim = some coord)
    (along : coord.dims = [dim]) : (dim, coord) ∈ (Extract.ofDataset ds v).coordinates := by
  refine List.mem_filterMap.2 ⟨dim, member, ?_⟩
  have among : coord.dims.all v.dims.contains := by
    rw [along, List.all_cons, List.all_nil, Bool.and_true]
    exact List.contains_iff_mem.2 member
  rw [Extract.coordinate?, found]
  exact if_pos (Bool.and_eq_true_iff.2 ⟨coordinate, among⟩)

/-- Of a stored variable, one index of a dimension is kept if the dimension is that long. -/
theorem only_isSlice_of_stored (fit : ds.WellFormed) {e : String × Variable}
    (stored : e ∈ ds.vars.entries) {dim : String} {n : Nat} (size : ds.sizeOf? dim = some n)
    (k : Nat) : (e.2.only dim k).IsSlice e.2 dim k (if k < n then 1 else 0) := by
  have count : (if k < n then 1 else 0) = min 1 (n - k) := by
    split <;> omega
  rw [count]
  refine Variable.only_isSlice (Dataset.length_shape (fit e stored)) (fun m member => ?_) k
  have same := Dataset.sizeOf?_of_mem_zip (fit e stored) dim m member
  rw [size] at same
  exact (Option.some.inj same).symm

/-- Of a stored variable and its coordinates, one level is kept if the dimension is that long. -/
theorem only_isLevel (fit : ds.WellFormed) {e : String × Variable} (stored : e ∈ ds.vars.entries)
    {dim : String} (member : dim ∈ e.2.dims) {n : Nat} (size : ds.sizeOf? dim = some n) (k : Nat) :
    ((Extract.ofDataset ds e.2).only dim k).IsLevel (Extract.ofDataset ds e.2) dim k
      (if k < n then 1 else 0) := by
  refine ⟨member, only_isSlice_of_stored fit stored size k, ?_⟩
  rw [Extract.only, List.forall₂_map_left_iff, List.forall₂_same]
  intro coord listed
  obtain ⟨dim', -, found⟩ := List.mem_filterMap.1 listed
  exact ⟨rfl, only_isSlice_of_stored fit (mem_of_coordinate? found) size k⟩

/-- How a coverage of a dataset is read. -/
structure Reads (ds : Dataset) (c : Coverage) (data : Extract) : Prop where
  /-- Nothing but the vertical criterion counts. -/
  others : ∀ criteria criteria' : Table Value,
    criteria.get? Criterion.verticalKey = criteria'.get? Criterion.verticalKey →
      (c.read criteria).result = (c.read criteria').result
  /-- Without it everything is read. -/
  whole : ∀ criteria : Table Value, criteria.get? Criterion.verticalKey = none →
    (c.read criteria).result = .ok data
  /-- With it the level is read that is found at its position.  If the coordinate of the levels runs
  along their dimension, the dimension has that index, and the coordinate is read with the level. -/
  level : ∀ (criteria : Table Value) (v : Value) (x : Float) (k : Nat),
    criteria.get? Criterion.verticalKey = some v →
    Criterion.number Criterion.verticalKey v = .ok x → (c.findLevel x).result = .ok k →
    ∃ dim n level, c.verticalDim = some dim ∧ ds.sizeOf? dim = some n ∧
      (c.read criteria).result = .ok level ∧ level.IsLevel data dim k (if k < n then 1 else 0) ∧
      (ds.RunsAlong dim → k < n ∧ ∃ coord, (dim, coord) ∈ data.coordinates ∧ coord.dims = [dim])

theorem findLevel_of_vertical {c : Coverage} {x : Float} {k : Nat}
    (found : (c.findLevel x).result = .ok k) :
    ∃ a, c.verticalAxis = some a ∧ (a.find x).result = .ok k := by
  rw [Coverage.findLevel] at found
  cases vertical : c.verticalAxis with
  | none => rw [vertical] at found; cases found
  | some a => rw [vertical] at found; exact ⟨a, rfl, found⟩

/-- A coverage of a dataset is read as a whole or by its levels. -/
theorem reads_of_describes (fit : ds.WellFormed) {e : String × Variable}
    (stored : e ∈ ds.vars.entries) {c : Coverage} (describes : Describes ds e c) :
    Reads ds c (Extract.ofDataset ds e.2) := by
  have here : c.data = some (Extract.ofDataset ds e.2) := by
    obtain ⟨axes, -, -, rfl⟩ := describes
    rfl
  have outcome (criteria : Table Value) := Coverage.result_levelFrom c none criteria.nodup
  constructor
  case others =>
    intro criteria criteria' same
    change criteria.entries.lookup _ = criteria'.entries.lookup _ at same
    rw [Coverage.result_read here, Coverage.result_read here, outcome, outcome, same]
  case whole =>
    intro criteria absent
    change criteria.entries.lookup _ = none at absent
    rw [Coverage.result_read here, outcome, absent]
    rfl
  case level =>
    intro criteria v x k given number found
    change criteria.entries.lookup _ = some v at given
    obtain ⟨a, vertical, index⟩ := findLevel_of_vertical found
    obtain ⟨made, member, coordinate⟩ := vertical_of_describes describes vertical
    obtain ⟨n, size⟩ := exists_sizeOf? fit stored member
    have dimension : c.verticalDim = some a.name := by rw [Coverage.verticalDim, vertical]; rfl
    refine ⟨a.name, n, (Extract.ofDataset ds e.2).only a.name k, dimension, size, ?_,
      only_isLevel fit stored member size k, fun along => ?_⟩
    · rw [Coverage.result_read here, outcome, given]
      simp only [number, found, bind, Except.bind, Coverage.keep, dimension]
    · obtain ⟨i, -, rfl⟩ := result_find.1 index
      have length := sizeOf?_of_isAxis fit made along
      rw [size] at length
      obtain ⟨coord, there⟩ := exists_coordinate coordinate
      exact ⟨Option.some.inj length ▸ i.isLt, coord,
        mem_coordinates member coordinate there (along coord there), along coord there⟩

/-- Every coverage of a dataset has its variable at hand, and is read as a whole or by its levels. -/
theorem reads_of_ofDataset {vars : List Variable} {attributes : Table Value}
    {declared : List String} {source : Option String} {location : Option String}
    {d : CoverageDataset} (stored : Dataset.ofVariables vars attributes declared source = .ok ds)
    (adapted : (CoverageDataset.ofDataset ds location).result = .ok d) :
    ∀ c ∈ d.grids, ∃ v, (c.name, v) ∈ covered ds ∧ c.data = some (Extract.ofDataset ds v) ∧
      Reads ds c (Extract.ofDataset ds v) := by
  intro c listed
  obtain ⟨e, member, describes⟩ := (described_of_ofDataset stored adapted).exists_variable listed
  have reads := reads_of_describes (Dataset.wellFormed_of_ofVariables stored)
    (List.mem_of_mem_filter member) describes
  obtain ⟨axes, -, -, rfl⟩ := describes
  exact ⟨e.2, member, rfl, reads⟩

theorem reads_of_ofDataset_crossed :
    ∃ ds d c data level, Dataset.ofVariables crossed .empty [] none = .ok ds ∧
      (CoverageDataset.ofDataset ds none).result = .ok d ∧ c ∈ d.grids ∧ c.name = "wind" ∧
      c.data = some data ∧
      (c.read (Table.ofList [("lev", .string "850"), ("Z", .string " 500 ")])).result = .ok level ∧
      level.IsLevel data "lev" 1 1 := by
  let v : Value := .string " 500 "
  let index (c : Coverage) : Option Nat :=
    (Criterion.number Criterion.verticalKey v).toOption.bind fun x => (c.findLevel x).result.toOption
  obtain ⟨ds, made, along, shown⟩ : ∃ ds,
      Dataset.ofVariables crossed .empty [] none = .ok ds ∧ ds.RunsAlong "lev" ∧
      ((CoverageDataset.ofDataset ds none).result.toOption.bind fun d => d.grids[1]?.map fun c =>
        (c.name, c.verticalDim, index c)) = some ("wind", some "lev", some 1) :=
    ⟨_, rfl, by decide +kernel, by decide +kernel⟩
  obtain ⟨d, result, second⟩ := Option.bind_eq_some_iff.1 shown
  obtain ⟨c, at_one, same⟩ := Option.map_eq_some_iff.1 second
  obtain ⟨name, dimension, position⟩ : c.name = "wind" ∧ c.verticalDim = some "lev" ∧
      index c = some 1 := by
    simpa only [Prod.mk.injEq] using same
  obtain ⟨x, number, found⟩ := Option.bind_eq_some_iff.1 position
  have adapted := Outcome.toOption_eq_some.1 result
  have listed : c ∈ d.grids := List.mem_of_getElem? at_one
  obtain ⟨w, -, here, reads⟩ := reads_of_ofDataset made adapted c listed
  obtain ⟨dim, n, level, vertical, -, read, isLevel, inside⟩ :=
    reads.level (Table.ofList [("lev", .string "850"), ("Z", v)]) v x 1 rfl
      (Outcome.toOption_eq_some.1 number) (Outcome.toOption_eq_some.1 found)
  obtain rfl : dim = "lev" := Option.some.inj (vertical.symm.trans dimension)
  rw [if_pos (inside along).1] at isLevel
  exact ⟨ds, d, c, _, level, made, adapted, listed, name, here, read, isLevel⟩

end Reading

/-! ## A level that is not there -/

/-- A single level is read wherever one is found. -/
def SingleLevels : Prop :=
  ∀ (vars : List Variable) (attributes : Table Value) (declared : List String)
    (source location : Option String) (ds : Dataset) (d : CoverageDataset),
    Dataset.ofVariables vars attributes declared source = .ok ds →
    (CoverageDataset.ofDataset ds location).result = .ok d →
    ∀ c ∈ d.grids, ∀ data, c.data = some data →
    ∀ (criteria : Table Value) (v : Value) (x : Float) (k : Nat),
      criteria.get? Criterion.verticalKey = some v →
      Criterion.number Criterion.verticalKey v = .ok x → (c.findLevel x).result = .ok k →
      ∃ dim level, c.verticalDim = some dim ∧ (c.read criteria).result = .ok level ∧
        level.IsLevel data dim k 1

/-- A field along two dimensions, with levels that have the name of the first and run along the
second. -/
def slanted : List Variable :=
  [{ name := some "T", dims := ["x", "y"], attributes := .empty
     cells := ⟨.float64, ⟨[2, 3], #v[.value (.float 1.0), .value (.float 2.0), .value (.float 3.0),
       .value (.float 4.0), .value (.float 5.0), .value (.float 6.0)]⟩⟩ },
    { name := some "x", dims := ["y"], attributes := Table.ofList [("units", .string "hPa")]
      cells := ⟨.float64, ⟨[3], #v[.value (.float 10.0), .value (.float 20.0),
        .value (.float 40.0)]⟩⟩ }]

theorem not_singleLevels : ¬ SingleLevels := by
  intro single
  let v : Value := .string "40"
  let criteria : Table Value := Table.ofList [("Z", v)]
  let index (c : Coverage) : Option Nat :=
    (Criterion.number Criterion.verticalKey v).toOption.bind fun x => (c.findLevel x).result.toOption
  let whole (c : Coverage) : Option (List Nat) := c.data.map fun e => e.variable_.sizesWith "x" 1
  let part (c : Coverage) : Option (List Nat) :=
    (c.read criteria).result.toOption.map fun e => e.variable_.cells.shape
  obtain ⟨ds, made, shown⟩ : ∃ ds, Dataset.ofVariables slanted .empty ["x"] none = .ok ds ∧
      ((CoverageDataset.ofDataset ds none).result.toOption.bind fun d => d.grids[0]?.map fun c =>
        (c.verticalDim, index c, whole c, part c)) =
        some (some "x", some 2, some [1, 3], some [0, 3]) :=
    ⟨_, rfl, by decide +kernel⟩
  obtain ⟨d, result, first⟩ := Option.bind_eq_some_iff.1 shown
  obtain ⟨c, at_zero, same⟩ := Option.map_eq_some_iff.1 first
  obtain ⟨dimension, position, sizes, shape⟩ : c.verticalDim = some "x" ∧ index c = some 2 ∧
      whole c = some [1, 3] ∧ part c = some [0, 3] := by
    simpa only [Prod.mk.injEq] using same
  obtain ⟨x, number, found⟩ := Option.bind_eq_some_iff.1 position
  obtain ⟨data, here, sizes⟩ := Option.map_eq_some_iff.1 sizes
  obtain ⟨dim, level, vertical, read, isLevel⟩ :=
    single _ _ _ _ _ ds d made (Outcome.toOption_eq_some.1 result) c
      (List.mem_of_getElem? at_zero) data here criteria v x 2 rfl
      (Outcome.toOption_eq_some.1 number) (Outcome.toOption_eq_some.1 found)
  obtain rfl : dim = "x" := Option.some.inj (vertical.symm.trans dimension)
  have cut : level.variable_.cells.shape = [0, 3] := by
    simpa only [part, read, Except.toOption, Option.map_some, Option.some.injEq] using shape
  rw [isLevel.cells.shape, sizes] at cut
  cases cut

/-! ## Levels at their own positions -/

section Own

variable {ds : Dataset} {n : Nat} {values : Vector Float n} {bounds : Vector (Float × Float) n}

/-- The positions of the levels along a dimension and the bounds of their cells, in doubles. -/
def HasLevels (ds : Dataset) (dim : String) (values : Vector Float n)
    (bounds : Vector (Float × Float) n) : Prop :=
  ∃ coord cells, ds.vars.get? dim = some coord ∧
    (Adapt.boundsOf ds dim coord).result = .ok (some cells) ∧
    coord.cells.toSeconds = .ok (.ofVector values) ∧ cells.toSeconds = .ok (.ofPairs bounds)

/-- The scale of the levels is made of their positions and the bounds of their cells. -/
theorem ofSamples_of_hasLevels {a : Axis} (made : IsAxis ds a)
    (levels : HasLevels ds a.name values bounds) :
    Scale.ofSamples (.ofVector values) (some (.ofPairs bounds)) none = .ok a.scale := by
  obtain ⟨coord, found, built⟩ := made
  obtain ⟨coord', cells, found', bounded, read, paired⟩ := levels
  rw [found] at found'
  cases found'
  obtain ⟨given, bounded', axis⟩ := ofVariable_of_buildAxis built
  rw [bounded] at bounded'
  cases bounded'
  obtain ⟨xs, bs, read', paired', scale⟩ := Axis.scale_of_ofVariable axis
  rw [read] at read'
  cases read'
  rw [Option.mapM_some, paired] at paired'
  cases paired'
  exact scale

/-- At the position of a level of a coverage that level is found, or the neighbour that owns the edge
they share. -/
theorem findLevel_own {vars : List Variable} {attributes : Table Value} {declared : List String}
    {source : Option String} {location : Option String} {d : CoverageDataset}
    (stored : Dataset.ofVariables vars attributes declared source = .ok ds)
    (adapted : (CoverageDataset.ofDataset ds location).result = .ok d) {c : Coverage}
    (listed : c ∈ d.grids) {axis : Axis} (vertical : c.verticalAxis = some axis)
    (levels : HasLevels ds axis.name values bounds) (around : Scale.CellsAround values bounds)
    (kind : axis.scale.spacing = .contiguousInterval ∧ Scale.BoundsAlong values bounds ∨
      axis.scale.spacing = .discontiguousInterval) (i : Fin n) :
    (c.findLevel (values.get i)).result =
      .ok (Scale.owner axis.scale.spacing values bounds i).val := by
  obtain ⟨e, -, describes⟩ := (described_of_ofDataset stored adapted).exists_variable listed
  obtain ⟨made, -, -⟩ := vertical_of_describes describes vertical
  obtain ⟨k, found, index⟩ :=
    Scale.find_own around (ofSamples_of_hasLevels made levels) kind i
  rw [Coverage.findLevel, vertical]
  exact result_find.2 ⟨k, found, index⟩

end Own

/-- A field on three layers of the soil, at positions in their cells. -/
def layers (values : Vector Float 3) (bounds : Vector (Float × Float) 3) : List Variable :=
  [{ name := some "soil", dims := ["soil"], cells := .ofDoubles (.ofVector values)
     attributes := Table.ofList [("axis", .string "Z"), ("bounds", .string "edges")] },
    { name := some "edges", dims := ["soil", "side"], cells := .ofDoubles (.ofPairs bounds)
      attributes := .empty },
    { name := some "T", dims := ["soil"], cells := .ofDoubles (.ofVector values)
      attributes := .empty }]

/-- The levels of the first coverage of a dataset, and the one that is found at a position. -/
def firstLevel (ds : Dataset) (x : Float) : Option (Option (String × Spacing) × Option Nat) :=
  (CoverageDataset.ofDataset ds none).result.toOption.bind fun d => d.grids[0]?.map fun c =>
    (c.verticalAxis.map fun a => (a.name, a.scale.spacing), (c.findLevel x).result.toOption)

theorem exists_of_firstLevel {ds : Dataset} {x : Float} {name : String} {kind : Spacing}
    {k : Option Nat} (shown : firstLevel ds x = some (some (name, kind), k)) :
    ∃ d c axis, (CoverageDataset.ofDataset ds none).result = .ok d ∧ c ∈ d.grids ∧
      c.verticalAxis = some axis ∧ axis.name = name ∧ axis.scale.spacing = kind ∧
      (c.findLevel x).result.toOption = k := by
  obtain ⟨d, result, first⟩ := Option.bind_eq_some_iff.1 shown
  obtain ⟨c, at_zero, same⟩ := Option.map_eq_some_iff.1 first
  obtain ⟨levels, index⟩ := Prod.mk.inj same
  obtain ⟨axis, vertical, both⟩ := Option.map_eq_some_iff.1 levels
  obtain ⟨own, spacing⟩ := Prod.mk.inj both
  exact ⟨d, c, axis, Outcome.toOption_eq_some.1 result, List.mem_of_getElem? at_zero, vertical, own,
    spacing, index⟩

/-- Layers one on top of the other. -/
def stacked : Vector (Float × Float) 3 := #v[(0.0, 1.0), (1.0, 3.0), (3.0, 7.0)]

theorem findLevel_own_stacked :
    ∃ ds d c axis, Dataset.ofVariables (layers #v[0.5, 3.0, 5.0] stacked) .empty [] none = .ok ds ∧
      (CoverageDataset.ofDataset ds none).result = .ok d ∧ c ∈ d.grids ∧
      c.verticalAxis = some axis ∧ axis.scale.spacing = .contiguousInterval ∧
      ∀ i : Fin 3, (c.findLevel (#v[0.5, 3.0, 5.0].get i)).result = .ok (#v[0, 2, 2].get i) := by
  obtain ⟨ds, made, levels, shown⟩ : ∃ ds,
      Dataset.ofVariables (layers #v[0.5, 3.0, 5.0] stacked) .empty [] none = .ok ds ∧
      HasLevels ds "soil" #v[0.5, 3.0, 5.0] stacked ∧
      firstLevel ds 0.5 = some (some ("soil", .contiguousInterval), some 0) :=
    ⟨_, rfl, ⟨_, _, rfl, rfl, Cells.toSeconds_ofDoubles _, Cells.toSeconds_ofDoubles _⟩,
      by decide +kernel⟩
  obtain ⟨d, c, axis, adapted, listed, vertical, name, kind, -⟩ := exists_of_firstLevel shown
  have around : Scale.CellsAround #v[0.5, 3.0, 5.0] stacked :=
    ⟨by decide +kernel, by decide +kernel, by decide +kernel⟩
  have owners : ∀ i, (Scale.owner .contiguousInterval #v[0.5, 3.0, 5.0] stacked i).val =
      #v[0, 2, 2].get i := by
    decide +kernel
  refine ⟨ds, d, c, axis, made, adapted, listed, vertical, kind, fun i => ?_⟩
  rw [findLevel_own made adapted listed vertical (name ▸ levels) around
    (.inl ⟨kind, by decide +kernel⟩) i, kind, owners i]

/-- On vertical axes of a kind, every level is found at its own position. -/
def LevelsFound (kind : Spacing)
    (found : {n : Nat} → Vector Float n → Vector (Float × Float) n → Fin n → Fin n) : Prop :=
  ∀ (vars : List Variable) (attributes : Table Value) (declared : List String)
    (source location : Option String) (ds : Dataset) (d : CoverageDataset),
    Dataset.ofVariables vars attributes declared source = .ok ds →
    (CoverageDataset.ofDataset ds location).result = .ok d →
    ∀ c ∈ d.grids, ∀ axis, c.verticalAxis = some axis → axis.scale.spacing = kind →
    ∀ (n : Nat) (values : Vector Float n) (bounds : Vector (Float × Float) n),
      HasLevels ds axis.name values bounds → Scale.CellsAround values bounds →
      ∀ i, (c.findLevel (values.get i)).result = .ok (found values bounds i).val

/-- It takes one level of which another one is found. -/
theorem not_levelsFound_of {kind : Spacing}
    {found : {n : Nat} → Vector Float n → Vector (Float × Float) n → Fin n → Fin n}
    {values : Vector Float 3} {bounds : Vector (Float × Float) 3} {ds : Dataset} {i : Fin 3}
    {k : Nat} (made : Dataset.ofVariables (layers values bounds) .empty [] none = .ok ds)
    (levels : HasLevels ds "soil" values bounds) (around : Scale.CellsAround values bounds)
    (shown : firstLevel ds (values.get i) = some (some ("soil", kind), some k))
    (other : k ≠ (found values bounds i).val) : ¬ LevelsFound kind found := by
  intro all
  obtain ⟨d, c, axis, adapted, listed, vertical, name, spacing, index⟩ := exists_of_firstLevel shown
  have own := all _ _ _ _ _ ds d made adapted c listed axis vertical spacing 3 values bounds
    (name ▸ levels) around i
  rw [Outcome.toOption_eq_some.1 index] at own
  exact other (Except.ok.inj own)

/-- Layers labelled by their bottoms, layers below a gap labelled by their tops, and layers in pascal
whose bounds are given against the order of the layers, but lie so close that they seem to touch. -/
theorem not_levelsFound :
    ¬ LevelsFound .contiguousInterval (fun _ _ i => i) ∧
      ¬ LevelsFound .discontiguousInterval (fun _ _ i => i) ∧
      ¬ LevelsFound .contiguousInterval (Scale.owner .contiguousInterval) := by
  have levels {values : Vector Float 3} {bounds : Vector (Float × Float) 3} {ds : Dataset}
      (made : Dataset.ofVariables (layers values bounds) .empty [] none = .ok ds) :
      HasLevels ds "soil" values bounds := by
    cases made
    exact ⟨_, _, rfl, rfl, Cells.toSeconds_ofDoubles _, Cells.toSeconds_ofDoubles _⟩
  refine ⟨?_, ?_, ?_⟩
  · have around : Scale.CellsAround #v[1.0, 3.0, 7.0] stacked :=
      ⟨by decide +kernel, by decide +kernel, by decide +kernel⟩
    obtain ⟨ds, made, shown⟩ : ∃ ds,
        Dataset.ofVariables (layers #v[1.0, 3.0, 7.0] stacked) .empty [] none = .ok ds ∧
        firstLevel ds 1.0 = some (some ("soil", .contiguousInterval), some 1) :=
      ⟨_, rfl, by decide +kernel⟩
    exact not_levelsFound_of made (levels made) around (i := 0) shown (by decide)
  · let bounds : Vector (Float × Float) 3 := #v[(0.0, 1.0), (1.0, 3.0), (5.0, 7.0)]
    have around : Scale.CellsAround #v[0.0, 1.0, 5.0] bounds :=
      ⟨by decide +kernel, by decide +kernel, by decide +kernel⟩
    obtain ⟨ds, made, shown⟩ : ∃ ds,
        Dataset.ofVariables (layers #v[0.0, 1.0, 5.0] bounds) .empty [] none = .ok ds ∧
        firstLevel ds 1.0 = some (some ("soil", .discontiguousInterval), some 0) :=
      ⟨_, rfl, by decide +kernel⟩
    exact not_levelsFound_of made (levels made) around (i := 1) shown (by decide)
  · let values : Vector Float 3 := #v[100000.625, 100000.3125, 100000.125]
    let bounds : Vector (Float × Float) 3 :=
      #v[(100000.5, 100000.75), (100000.25, 100000.5), (100000.0, 100000.25)]
    have around : Scale.CellsAround values bounds :=
      ⟨by decide +kernel, by decide +kernel, by decide +kernel⟩
    obtain ⟨ds, made, shown⟩ : ∃ ds,
        Dataset.ofVariables (layers values bounds) .empty [] none = .ok ds ∧
        firstLevel ds 100000.3125 = some (some ("soil", .contiguousInterval), some 0) :=
      ⟨_, rfl, by decide +kernel⟩
    exact not_levelsFound_of made (levels made) around (i := 1) shown (by decide +kernel)

end Meteo.Grid
