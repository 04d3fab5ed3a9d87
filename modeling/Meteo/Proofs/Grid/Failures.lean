/-
# Meteo.Proofs.Grid.Failures -- how adapting a dataset fails

A coverage needs the axes of its dimensions, in order, and then texts for its own units and
description (`needs`).  An axis is made of the cells of a coordinate and those of its
bounds, read as numbers in this order; it needs at least one sample along a single
dimension, attributes with texts, numbers in all cells that are read, and a pair of bounds
for each sample (`Usable`).  The first need that is not met ends the adaption, and for an
axis the error names the dimension.

Some failures escape that sentence.  Reading stops at the first cell that is no number
(`ComesUpon`); if that is an integer beyond the largest double, or a time, the failure is one
of its own.  So is that of a coverage without the texts it needs.

`Ends` says how a computation with needs ends: it is proved for one axis (`ends_buildAxis`),
for the axes of a variable, for all variables, and so for a dataset (`ends_ofDataset`).
-/
import Meteo.Proofs.Cells
import Meteo.Proofs.Grid.Coverages

namespace Meteo

set_option autoImplicit false

/-- Samples make a scale if their bounds, when they have any, are pairs. -/
theorem Scale.exists_ofVector {α : Type} [Ordinate α] {n : Nat} (h : 0 < n) (values : Vector α n)
    {bounds : Option (Block α)} (pairs : ∀ b ∈ bounds, b.shape = [n, 2]) :
    ∃ s, ofVector h values bounds none = .ok s := by
  cases bounds with
  | none => exact ⟨_, ofVector_points h values none⟩
  | some b =>
      obtain ⟨cells, rfl⟩ := Block.exists_ofPairs (pairs b rfl)
      exact ⟨_, ofVector_pairs h values cells none⟩

namespace Grid

/-! ## One axis -/

/-- A coordinate has at least one sample, along a single dimension. -/
def HasSamples (coord : Variable) : Prop := ∃ n, 0 < n ∧ coord.cells.shape = [n]

/-- What an axis can be made of. -/
structure Usable (coord : Variable) (bounds : Option Cells) : Prop where
  samples : HasSamples coord
  named : Axis.isNamed coord
  numbers : ∀ cells ∈ coord.cells :: bounds.toList, ∀ c ∈ cells.all, c.isNumber cells.type
  pairs : ∀ b ∈ bounds, b.shape = coord.cells.shape ++ [2]

/-- The first cell that is no number among those that are read for an axis: those of the coordinate,
then those of its bounds. -/
def firstOther? (coord : Variable) (bounds : Option Cells) : Option Cell :=
  (coord.cells :: bounds.toList).findSome? Cells.firstOther?

/-- Cells are read for an axis, and this one is the first that is no number. -/
def ComesUpon (coord : Variable) (bounds : Option Cells) (c : Cell) : Prop :=
  HasSamples coord ∧ Axis.isNamed coord ∧ firstOther? coord bounds = some c

/-- How making an axis of a coordinate and its bounds fails. -/
inductive Unusable (coord : Variable) (bounds : Option Cells) : Error → Prop where
  | tooLarge {k : Int} (met : ComesUpon coord bounds (.value (.int k))) :
      Unusable coord bounds (.fault .overflow)
  | wrongKind {t : CellTime} (met : ComesUpon coord bounds (.time t)) :
      Unusable coord bounds (.fault .badKind)
  | badValue (within : ∀ c, ComesUpon coord bounds c → c.flaw = .badValue) :
      Unusable coord bounds (.fault .badValue)
  | issue (within : ∀ c, ComesUpon coord bounds c → c.flaw = .badValue) (i : AxisIssue) :
      Unusable coord bounds (.coordinate coord.nameText i)

section Axes

variable {coord : Variable} {bounds : Option Cells} {c : Cell}

theorem firstOther?_eq_none :
    firstOther? coord bounds = none ↔
      ∀ cells ∈ coord.cells :: bounds.toList, ∀ c ∈ cells.all, c.isNumber cells.type := by
  simp only [firstOther?, List.findSome?_eq_none_iff, Cells.firstOther?_eq_none]

theorem not_comesUpon_of_numbers (numbers : firstOther? coord bounds = none) :
    ¬ ComesUpon coord bounds c := by
  rintro ⟨-, -, other⟩
  cases numbers.symm.trans other

theorem unusable_of_comesUpon (met : ComesUpon coord bounds c) :
    ¬ Usable coord bounds ∧ Unusable coord bounds (.fault c.flaw) := by
  constructor
  · intro usable
    exact not_comesUpon_of_numbers (firstOther?_eq_none.2 usable.numbers) met
  · have same {c' : Cell} (other : ComesUpon coord bounds c') : c' = c :=
      Option.some.inj (other.2.2.symm.trans met.2.2)
    rcases c with v | t
    · cases v with
      | int k => exact .tooLarge met
      | _ => exact .badValue fun c' other => same other ▸ rfl
    · exact .wrongKind met

/-- What has been read makes an axis if the bounds are pairs. -/
theorem ends_ofSamples (samples : HasSamples coord) (named : Axis.isNamed coord)
    {xs : Block Float} {bs : Option (Block Float)} (shape : xs.shape = coord.cells.shape)
    (shapes : bs.map Block.shape = bounds.map Cells.shape)
    (numbers : firstOther? coord bounds = none) :
    match (Scale.ofSamples xs bs none).mapError (Error.coordinate coord.nameText) with
    | .ok _ => Usable coord bounds
    | .error e => ¬ Usable coord bounds ∧ Unusable coord bounds e := by
  obtain ⟨n, pos, along⟩ := id samples
  obtain ⟨values, rfl⟩ := Block.exists_ofVector (shape.trans along)
  rw [Scale.ofSamples_ofVector pos]
  by_cases pairs : ∀ b ∈ bounds, b.shape = coord.cells.shape ++ [2]
  · have pairs' : ∀ b ∈ bs, b.shape = [n, 2] := by
      rintro b ⟨⟩
      obtain ⟨b', given, same⟩ := Option.map_eq_some_iff.1 shapes.symm
      rw [← same, pairs b' given, along]
      rfl
    obtain ⟨s, made⟩ := Scale.exists_ofVector pos values pairs'
    rw [made]
    exact ⟨samples, named, firstOther?_eq_none.1 numbers, pairs⟩
  · have apart : ¬ Usable coord bounds := fun usable => pairs usable.pairs
    obtain ⟨b, rfl, other⟩ : ∃ b, bounds = some b ∧ b.shape ≠ coord.cells.shape ++ [2] := by
      simpa only [not_forall, exists_prop, Option.mem_def] using pairs
    obtain ⟨b', rfl, same⟩ := Option.map_eq_some_iff.1 shapes
    rw [along, ← same] at other
    rw [Scale.ofVector_of_not_pairs pos values none other]
    exact ⟨apart, .issue (fun _ met => (not_comesUpon_of_numbers numbers met).elim) _⟩

/-- The samples are read before the bounds, and both before their shapes are compared. -/
theorem ends_scaleOf (named : Axis.isNamed coord) (bounds : Option Cells) :
    match Axis.scaleOf coord.nameText coord.cells bounds none Cells.toSeconds with
    | .ok _ => Usable coord bounds
    | .error e => ¬ Usable coord bounds ∧ Unusable coord bounds e := by
  rw [Axis.scaleOf, Axis.samples]
  by_cases samples : HasSamples coord
  · obtain ⟨n, pos, shape⟩ := id samples
    rw [shape, Scale.samplesIssue?_of_samples pos]
    dsimp only
    have upon {c : Cell} (first : firstOther? coord bounds = some c) :=
      unusable_of_comesUpon ⟨samples, named, first⟩
    cases first : coord.cells.firstOther? with
    | some c =>
        rw [Cells.toSeconds_of_some first]
        exact upon (by rw [firstOther?, List.findSome?_cons, first])
    | none =>
        obtain ⟨xs, read⟩ := Cells.toSeconds_of_none first
        have along : xs.shape = coord.cells.shape := Block.shape_of_mapM read
        have cells : firstOther? coord bounds = bounds.toList.findSome? Cells.firstOther? := by
          rw [firstOther?, List.findSome?_cons, first]
        rw [read]
        cases bounds with
        | none => exact ends_ofSamples samples named along rfl cells
        | some b =>
            dsimp only [bind, Except.bind, Except.mapError]
            cases second : b.firstOther? with
            | some c =>
                rw [Cells.toSeconds_of_some second]
                exact upon (by rw [cells, Option.toList_some, List.findSome?_cons, second])
            | none =>
                obtain ⟨bs, stored⟩ := Cells.toSeconds_of_none second
                rw [stored]
                refine ends_ofSamples samples named along
                  (congrArg some (Block.shape_of_mapM stored)) ?_
                rw [cells, Option.toList_some, List.findSome?_cons, second, List.findSome?_nil]
  · obtain ⟨issue, refused⟩ := Scale.samplesIssue?_of_not_samples samples
    rw [refused]
    exact ⟨fun usable => samples usable.samples, .issue (fun _ met => (samples met.1).elim) issue⟩

/-- An axis is made of what it can be made of, and of nothing else. -/
theorem ends_ofVariable (coord : Variable) (bounds : Option Cells) :
    match Axis.ofVariable coord bounds none with
    | .ok _ => Usable coord bounds
    | .error e => ¬ Usable coord bounds ∧ Unusable coord bounds e := by
  rw [Axis.ofVariable]
  by_cases named : Axis.isNamed coord
  · have ends := ends_scaleOf named bounds
    rw [if_pos named]
    dsimp only [Option.getD_none]
    cases made : Axis.scaleOf coord.nameText coord.cells bounds none Cells.toSeconds with
    | ok s =>
        rw [made] at ends
        exact ends
    | error e =>
        rw [made] at ends
        exact ends
  · rw [if_neg named]
    exact ⟨fun usable => named usable.named, .badValue fun _ met => (named met.2.1).elim⟩

end Axes

/-! ## The axes of a dataset -/

/-- The coordinate of a dimension and the bounds that are read for it. -/
def IsReadFor (ds : Dataset) (dim : String) (coord : Variable) (bounds : Option Cells) : Prop :=
  ds.vars.get? dim = some coord ∧ (Adapt.boundsOf ds dim coord).result = .ok bounds

/-- The coordinate of a dimension makes an axis. -/
def MakesAxis (ds : Dataset) (dim : String) : Prop :=
  ∃ coord bounds, IsReadFor ds dim coord bounds ∧ Usable coord bounds

/-- What a coverage needs: the axis of a dimension, and texts for its units and description. -/
inductive Need where
  | axis (dim : String)
  | texts (v : Variable)

/-- What the coverage of a variable needs, in order. -/
def needs (ds : Dataset) (v : Variable) : List Need := (axisDims ds v).map Need.axis ++ [.texts v]

def Need.Met (ds : Dataset) : Need → Prop
  | axis dim => MakesAxis ds dim
  | texts v => Convention.isDescribed v.attributes

/-- Reading the coordinate of a dimension and its bounds comes upon a cell that is no number. -/
def Meets (ds : Dataset) (dim : String) (c : Cell) : Prop :=
  ∃ coord bounds, IsReadFor ds dim coord bounds ∧ ComesUpon coord bounds c

/-- The error for a need that is not met: for an axis the processing of the data has failed, unless
an integer is too large or a time is no number; a variable without texts is a bad value. -/
inductive Fails (ds : Dataset) : Need → Error → Prop where
  | processing {dim : String} (within : ∀ c, Meets ds dim c → c.flaw = .badValue)
      (reason : Option String) :
      Fails ds (.axis dim) (.processing (.axisConstruction dim) reason)
  | overflow {dim : String} {k : Int} (beyond : Meets ds dim (.value (.int k))) :
      Fails ds (.axis dim) (.fault .overflow)
  | wrongKind {dim : String} {t : CellTime} (met : Meets ds dim (.time t)) :
      Fails ds (.axis dim) (.fault .badKind)
  | noText {v : Variable} : Fails ds (.texts v) (.fault .badValue)

/-- The error for the first of some needs that is not met. -/
def Stops (ds : Dataset) (needs : List Need) (e : Error) : Prop :=
  ∃ before need behind, needs = before ++ need :: behind ∧ (∀ n ∈ before, n.Met ds) ∧
    ¬ need.Met ds ∧ Fails ds need e

/-- How a computation with some needs ends. -/
def Ends {α : Type} (ds : Dataset) (needs : List Need) : Except Error α → Prop
  | .ok _ => ∀ n ∈ needs, n.Met ds
  | .error e => Stops ds needs e

section Datasets

variable {ds : Dataset} {dim : String} {dims : List String} {needed : List Need} {α β : Type}

theorem ends_ok (a : α) : Ends ds [] (.ok a : Except Error α) := nofun

/-- One computation after another has the needs of both. -/
theorem ends_bind {behind : List Need} {x : Except Error α} {f : α → Except Error β}
    (first : Ends ds needed x) (rest : ∀ a, x = .ok a → Ends ds behind (f a)) :
    Ends ds (needed ++ behind) (x >>= f) := by
  cases x with
  | error e =>
      obtain ⟨before, need, others, rfl, met, fails⟩ := first
      exact ⟨before, need, others ++ behind, List.append_assoc .., met, fails⟩
  | ok a =>
      have later := rest a rfl
      change Ends ds (needed ++ behind) (f a)
      cases result : f a with
      | error e =>
          rw [result] at later
          obtain ⟨before, need, others, rfl, met, fails⟩ := later
          exact ⟨needed ++ before, need, others, (List.append_assoc ..).symm,
            List.forall_mem_append.2 ⟨first, met⟩, fails⟩
      | ok b =>
          rw [result] at later
          exact List.forall_mem_append.2 ⟨first, later⟩

theorem boundsOf_error {coord : Variable} {e : Error}
    (failed : (Adapt.boundsOf ds dim coord).result = .error e) : e = .fault .badValue := by
  rw [Adapt.boundsOf] at failed
  split at failed
  · split at failed
    · split at failed
      · cases failed
      · split at failed
        · cases failed
        · cases failed
          rfl
    · cases failed
  · cases failed

theorem IsReadFor.eq {coord coord' : Variable} {bounds bounds' : Option Cells}
    (read : IsReadFor ds dim coord bounds) (read' : IsReadFor ds dim coord' bounds') :
    coord' = coord ∧ bounds' = bounds := by
  cases read.1.symm.trans read'.1
  cases read.2.symm.trans read'.2
  exact ⟨rfl, rfl⟩

theorem result_buildAxis (ds : Dataset) (dim : String) (coord : Variable) :
    (Adapt.buildAxis ds dim coord).result =
      ((Adapt.boundsOf ds dim coord).result >>= fun bounds =>
        Axis.ofVariable coord bounds none).mapError (Adapt.asProcessing dim) := by
  rw [Adapt.buildAxis, Logged.result_mapError, Logged.result_bind]
  rfl

theorem stops_one {need : Need} {e : Error} (unmet : ¬ need.Met ds) (fails : Fails ds need e) :
    Stops ds [need] e :=
  ⟨[], need, [], rfl, nofun, unmet, fails⟩

/-- An axis that cannot be made of what is read is the failure of its dimension. -/
theorem stops_of_unusable {coord : Variable} {bounds : Option Cells} {e : Error}
    (read : IsReadFor ds dim coord bounds) (apart : ¬ Usable coord bounds)
    (fails : Unusable coord bounds e) : Stops ds [.axis dim] (Adapt.asProcessing dim e) := by
  have upon {c : Cell} (met : ComesUpon coord bounds c) : Meets ds dim c :=
    ⟨coord, bounds, read, met⟩
  have processing (within : ∀ c, ComesUpon coord bounds c → c.flaw = .badValue)
      (reason : Option String) :
      Fails ds (.axis dim) (.processing (.axisConstruction dim) reason) := by
    refine .processing ?_ reason
    rintro c ⟨coord', bounds', read', met⟩
    obtain ⟨rfl, rfl⟩ := read.eq read'
    exact within c met
  refine stops_one ?_ ?_
  · rintro ⟨coord', bounds', read', usable⟩
    obtain ⟨rfl, rfl⟩ := read.eq read'
    exact apart usable
  · cases fails with
    | tooLarge met => exact .overflow (upon met)
    | wrongKind met => exact .wrongKind (upon met)
    | badValue within => exact processing within _
    | issue within i => exact processing within _

/-- Making the axis of a dimension fails as its coordinate and its bounds do. -/
theorem ends_buildAxis {coord : Variable} (found : ds.vars.get? dim = some coord) :
    Ends ds [.axis dim] (Adapt.buildAxis ds dim coord).result := by
  rw [result_buildAxis]
  cases read : (Adapt.boundsOf ds dim coord).result with
  | error e =>
      have unread {coord' : Variable} {bounds : Option Cells} :
          ¬ IsReadFor ds dim coord' bounds := by
        rintro ⟨found', read'⟩
        cases found.symm.trans found'
        cases read.symm.trans read'
      cases boundsOf_error read
      exact stops_one (fun ⟨_, _, is, _⟩ => unread is)
        (.processing (fun _ ⟨_, _, is, _⟩ => (unread is).elim) none)
  | ok bounds =>
      have ends := ends_ofVariable coord bounds
      change Ends ds [.axis dim] ((Axis.ofVariable coord bounds none).mapError _)
      cases made : Axis.ofVariable coord bounds none with
      | ok a =>
          rw [made] at ends
          exact List.forall_mem_singleton.2 ⟨coord, bounds, ⟨found, read⟩, ends⟩
      | error e =>
          rw [made] at ends
          exact stops_of_unusable ⟨found, read⟩ ends.1 ends.2

theorem makesAxis_of_isAxis {a : Axis} (known : IsAxis ds a) : MakesAxis ds a.name := by
  obtain ⟨coord, found, built⟩ := known
  have ends := ends_buildAxis found
  rw [built] at ends
  exact ends (.axis a.name) List.mem_cons_self

/-- An axis that was made before is not made again. -/
theorem ends_sharedAxis {made : List Axis} {coord : Variable} (before : ∀ b ∈ made, IsAxis ds b)
    (found : ds.vars.get? dim = some coord) :
    Ends ds [.axis dim] (Adapt.sharedAxis ds made dim coord).result := by
  rw [Adapt.sharedAxis]
  split
  · next a kept =>
    have known := makesAxis_of_isAxis (before a (List.mem_of_find?_eq_some kept))
    have own : a.name = dim := eq_of_beq (List.find?_eq_some_iff_append.1 kept).1
    rw [own] at known
    exact List.forall_mem_singleton.2 known
  · rw [Logged.result_bind, ← List.append_nil [Need.axis dim]]
    exact ends_bind (ends_buildAxis found) fun a _ => ends_ok (a, made ++ [a])

/-- The dimensions with a coordinate are those whose axes are made. -/
theorem ends_axesFor (named : ds.WellNamed) (name : String) {made : List Axis}
    (before : ∀ b ∈ made, IsAxis ds b) :
    Ends ds ((dims.filter ds.isCoordinate).map Need.axis)
      (Adapt.axesFor ds name made dims).result := by
  induction dims generalizing made with
  | nil => exact ends_ok _
  | cons dim dims ih =>
      rw [Adapt.axesFor, coordinate_eq]
      by_cases coordinate : ds.isCoordinate dim
      · obtain ⟨coord, found⟩ := exists_coordinate coordinate
        rw [if_pos coordinate, found, List.filter_cons_of_pos coordinate]
        dsimp only
        rw [Logged.result_bind, List.map_cons, ← List.singleton_append]
        refine ends_bind (ends_sharedAxis before found) fun made' shared => ?_
        have known := (isAxis_of_sharedAxis named found before shared).2
        rw [Logged.result_bind, ← List.append_nil (List.map _ _)]
        exact ends_bind (ih known) fun _ _ => ends_ok _
      · rw [if_neg coordinate, List.filter_cons_of_neg coordinate]
        exact ih before

theorem exists_mappingOf (ds : Dataset) (name : String) (v : Variable) :
    ∃ mapping, (Adapt.mappingOf ds name v).result = .ok mapping := by
  have described (m : Variable) : ∃ t, (Transform.ofMapping m none).result = .ok t := by
    rw [Transform.ofMapping]
    split <;> exact ⟨_, rfl⟩
  rw [Adapt.mappingOf]
  split
  · split
    · next m _ =>
      obtain ⟨t, made⟩ := described m
      refine ⟨[t], ?_⟩
      rw [Logged.result_bind, made]
      rfl
    · exact ⟨_, rfl⟩
  · exact ⟨_, rfl⟩

theorem ends_requireTexts (v : Variable) :
    Ends ds [.texts v] (Adapt.requireTexts v).result := by
  rw [Adapt.requireTexts]
  split
  · next described => exact List.forall_mem_singleton.2 described
  · next other => exact stops_one other .noText

/-- The needs are those of the variables that are not skipped, one variable after the other. -/
theorem ends_coverages (named : ds.WellNamed) (skipped : List String) {made : List Axis}
    (gs : List Gridset) {vars : List (String × Variable)} (before : ∀ b ∈ made, IsAxis ds b) :
    Ends ds ((vars.filter fun e => !(skipped.contains e.1 || e.2.rank = 0)).flatMap fun e =>
      needs ds e.2) (Adapt.coverages ds skipped made gs vars).result := by
  induction vars generalizing made gs with
  | nil => exact ends_ok _
  | cons e vars ih =>
      obtain ⟨name, v⟩ := e
      rw [Adapt.coverages]
      by_cases skip : skipped.contains name || v.rank = 0
      · rw [if_pos skip, List.filter_cons_of_neg (by rw [skip]; exact Bool.false_ne_true)]
        exact ih gs before
      · rw [if_neg skip, List.filter_cons_of_pos (by simpa using skip), List.flatMap_cons, needs,
          List.append_assoc, Logged.result_bind]
        refine ends_bind (ends_axesFor named name before) fun made' built => ?_
        obtain ⟨axes, vertical, made'⟩ := made'
        have known := (isAxis_of_axesFor named before built).2
        obtain ⟨mapping, mapped⟩ := exists_mappingOf ds name v
        dsimp only
        rw [Logged.result_bind, mapped]
        change Ends ds _ ((Adapt.requireTexts v >>= _).result)
        rw [Logged.result_bind]
        refine ends_bind (ends_requireTexts v) fun _ _ => ?_
        rw [Logged.result_bind, ← List.append_nil (List.flatMap _ _)]
        exact ends_bind (ih _ known) fun _ _ => ends_ok _

/-- Adapting a dataset meets the needs of its coverages, in order, and fails as the first of these
does that is not met. -/
theorem ends_ofDataset {vars : List Variable} {attributes : Table Value} {declared : List String}
    {source : Option String}
    (stored : Dataset.ofVariables vars attributes declared source = .ok ds)
    (location : Option String) :
    Ends ds ((covered ds).flatMap fun e => needs ds e.2)
      (CoverageDataset.ofDataset ds location).result := by
  have named := Dataset.wellNamed_of_ofVariables stored
  rw [CoverageDataset.ofDataset, Logged.result_bind, covered,
    ← covered_eq (Dataset.wellFormed_of_ofVariables stored), ← List.append_nil (List.flatMap _ _)]
  exact ends_bind (ends_coverages named _ _ (List.forall_mem_nil _)) fun _ _ => ends_ok _

end Datasets

/-- A field along a coordinate of arbitrary values, the number 10 and another. -/
def along (c : Cell) : List Variable :=
  [{ name := some "x", dims := ["x"], attributes := .empty
     cells := ⟨.value, ⟨[2], #v[.value (.int 10), c]⟩⟩ },
    { name := some "field", dims := ["x"], attributes := .empty
      cells := ⟨.float64, ⟨[2], #v[.value (.float 11.0), .value (.float 12.0)]⟩⟩ }]

/-- The other one is an integer of 401 digits. -/
def huge : List Variable := along (.value (.int (Int.pow 10 400)))

/-- The other one is the first of January of 2024. -/
def newYear : List Variable := along (.time (.date ⟨⟨2024, 1, 1⟩, {}, none⟩))

/-- The fault that a computation ends with. -/
def fault? {α : Type} : Except Error α → Option Fault
  | .error (.fault f) => some f
  | _ => none

/-- The number that is too large, and the date, are each met behind the number 10. -/
theorem ends_ofDataset_huge :
    (∃ ds, Dataset.ofVariables huge .empty [] none = .ok ds ∧
      fault? (CoverageDataset.ofDataset ds none).result = some .overflow ∧
      Ends ds ((covered ds).flatMap fun e => needs ds e.2)
        (CoverageDataset.ofDataset ds none).result) ∧
    ∃ ds, Dataset.ofVariables newYear .empty [] none = .ok ds ∧
      fault? (CoverageDataset.ofDataset ds none).result = some .badKind ∧
      Ends ds ((covered ds).flatMap fun e => needs ds e.2)
        (CoverageDataset.ofDataset ds none).result := by
  constructor
  · obtain ⟨ds, stored, failed⟩ : ∃ ds, Dataset.ofVariables huge .empty [] none = .ok ds ∧
        fault? (CoverageDataset.ofDataset ds none).result = some .overflow :=
      ⟨_, rfl, by decide +kernel⟩
    exact ⟨ds, stored, failed, ends_ofDataset stored none⟩
  · obtain ⟨ds, stored, failed⟩ : ∃ ds, Dataset.ofVariables newYear .empty [] none = .ok ds ∧
        fault? (CoverageDataset.ofDataset ds none).result = some .badKind :=
      ⟨_, rfl, by decide +kernel⟩
    exact ⟨ds, stored, failed, ends_ofDataset stored none⟩

/-- Adapting a dataset fails only because the data of some axis cannot be processed. -/
def FailsOnlyProcessing : Prop :=
  ∀ (vars : List Variable) (attributes : Table Value) (declared : List String)
    (source location : Option String) (ds : Dataset),
    Dataset.ofVariables vars attributes declared source = .ok ds →
    ∀ e, (CoverageDataset.ofDataset ds location).result = .error e →
      ∃ dim reason, e = .processing (.axisConstruction dim) reason

/-- An integer that is too large is a failure of its own. -/
theorem not_failsOnlyProcessing : ¬ FailsOnlyProcessing := by
  intro documented
  obtain ⟨ds, stored, failed⟩ : ∃ ds, Dataset.ofVariables huge .empty [] none = .ok ds ∧
      fault? (CoverageDataset.ofDataset ds none).result = some .overflow :=
    ⟨_, rfl, by decide +kernel⟩
  cases result : (CoverageDataset.ofDataset ds none).result with
  | ok d => rw [result] at failed; cases failed
  | error e =>
      obtain ⟨dim, reason, rfl⟩ := documented _ _ _ _ none ds stored e result
      rw [result] at failed
      cases failed

end Grid

end Meteo
