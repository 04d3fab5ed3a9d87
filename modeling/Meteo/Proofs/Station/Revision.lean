/-
# Meteo.Proofs.Station.Revision -- collections of revised datasets

A dataset may have other variables under its names (`Dataset.revise`).  What becomes of the
collection that is loaded from it is decided variable by variable (`StandsFor`): where
stations stand, what they are called and when they were observed must be read alike, the
observations may come in another order `σ`, and their values may be changed by a function
`g`.  Then the collection is the same with its values changed by `g` (`result_revised`).

Every step of loading is followed through: the parts of the dataset are the variables in
place of those (`find_revised`), and each station has its own observations
(`station_revised`).  Their order is lost when they are sorted, if no two of them have the
same time (`mergeSort_of_perm`).
-/
import Mathlib.Data.List.Find
import Mathlib.Data.List.Nodup
import Meteo.Proofs.Station.Loading
import Meteo.Proofs.Storage

namespace Meteo

set_option autoImplicit false

/-! ## Other values under the same names -/

/-- The observation with its values changed. -/
def Observation.revise (g : String → Value → Value) (o : Observation) : Observation :=
  { o with values := o.values.mapWith g }

/-- The station with its observed values changed. -/
def Station.revise (g : String → Value → Value) (s : Station) : Station :=
  { s with observations := s.observations.map (·.revise g) }

/-- The collection with its observed values changed. -/
def Collection.revise (g : String → Value → Value) (c : Collection) : Collection :=
  { c with stations := c.stations.map (·.revise g) }

section Unchanged

variable {g : String → Value → Value}

theorem Observation.revise_eq_self {o : Observation} :
    o.revise g = o ↔ ∀ e ∈ o.values.entries, g e.1 e.2 = e.2 := by
  rw [← Table.mapWith_eq_self]
  exact ⟨congrArg Observation.values, fun same => congrArg (Observation.mk o.time) same⟩

theorem Station.revise_eq_self {s : Station} :
    s.revise g = s ↔ ∀ o ∈ s.observations, o.revise g = o := by
  have listed : s.revise g = s ↔ s.observations.map (·.revise g) = s.observations.map id := by
    rw [List.map_id]
    exact ⟨congrArg Station.observations, fun same =>
      congrArg (fun os => { s with observations := os }) same⟩
  rw [listed, List.map_inj_left]
  rfl

theorem Collection.revise_eq_self {c : Collection} :
    c.revise g = c ↔ ∀ s ∈ c.stations, ∀ o ∈ s.observations, ∀ e ∈ o.values.entries,
      g e.1 e.2 = e.2 := by
  have listed : c.revise g = c ↔ c.stations.map (·.revise g) = c.stations.map id := by
    rw [List.map_id]
    exact ⟨congrArg Collection.stations, fun same =>
      congrArg (fun ss => { c with stations := ss }) same⟩
  rw [listed, List.map_inj_left]
  refine forall₂_congr fun s _ => Station.revise_eq_self.trans ?_
  exact forall₂_congr fun o _ => Observation.revise_eq_self

end Unchanged

namespace Loading

open Time

/-- The variable from which the stations have their names. -/
def namedBy (ds : Dataset) (p : StationParts) : Option String :=
  match p.identity with
  | some e => some e.1
  | none => if ds.isCoordinate p.stationDim then some p.stationDim else none

/-- No two observations of a station have the same time. -/
def DistinctTimes (ds : Dataset) (p : StationParts) : Prop :=
  ∀ i < p.stationCount ds, ∀ j < p.obsCount, ∀ k < p.obsCount,
    (p.timeAt? i j).isSome → p.timeAt? i j = p.timeAt? i k → j = k

instance (ds : Dataset) (p : StationParts) : Decidable (DistinctTimes ds p) :=
  inferInstanceAs (Decidable (∀ i < p.stationCount ds, ∀ j < p.obsCount, ∀ k < p.obsCount,
    (p.timeAt? i j).isSome → p.timeAt? i j = p.timeAt? i k → j = k))

/-- Another order of the observations is the same one, or does not matter as their times differ. -/
def OrderFree (ds : Dataset) (p : StationParts) (σ : Nat → Nat) : Prop :=
  (∀ j, σ j = j) ∨
    ((List.range p.obsCount).map σ).Perm (List.range p.obsCount) ∧ DistinctTimes ds p

/-! ## Variables in place of others -/

/-- A variable stands for another one: where stations stand, what they are called and when they were
observed is read alike, with the observations in the order `σ`, and observed values are changed by
`g`. -/
structure StandsFor (ds : Dataset) (p : StationParts) (σ : Nat → Nat) (g : String → Value → Value)
    (e : String × Variable) (v : Variable) : Prop where
  fit : ds.fits e.1 v
  dims (dim : String) (present : dim ∈ e.2.dims) : dim ∈ v.dims
  attributes : v.attributes = e.2.attributes
  isTime : v.cells.isTime = e.2.cells.isTime
  naming (named : namedBy ds p = some e.1) :
    v.dims.head? = e.2.dims.head? ∧ namesIn v = namesIn e.2
  place (along : e.2.dims = [p.stationDim] ∨ v.dims = [p.stationDim]) :
    v.dims = e.2.dims ∧ v.cells.block = e.2.cells.block
  obsDim (times : e = p.time) : Discovery.obsDimOf v p.stationDim = .ok p.obsDim
  free (unreserved : e.1 ∉ p.reserved) : v.dims.Perm e.2.dims
  uneven : isUneven p v = isUneven p e.2
  time (times : e = p.time) (i j : Nat) (hi : i < p.stationCount ds) (hj : j < p.obsCount) :
    (p.cellAt? v i j).bind Cell.time? = (p.cellAt? e.2 i (σ j)).bind Cell.time?
  report (observed : e ∈ p.observed ds) (i j : Nat) (hi : i < p.stationCount ds)
    (hj : j < p.obsCount) :
    (p.cellAt? v i j).bind (reportOf e.1 v.cells.type) =
      ((p.cellAt? e.2 i (σ j)).bind (reportOf e.1 e.2.cells.type)).map fun x => (x.1, g x.1 x.2)

theorem isUneven_of_perm {p : StationParts} {v w : Variable} (perm : v.dims.Perm w.dims) :
    isUneven p v = isUneven p w := by
  unfold isUneven StationParts.spans
  rw [perm.all_eq, perm.contains_eq, perm.contains_eq, perm.length_eq]

/-- Each variable of a dataset has one in its place. -/
def Revises (ds : Dataset) (p : StationParts) (σ : Nat → Nat) (f : String → Variable → Variable)
    (g : String → Value → Value) : Prop :=
  ∀ e ∈ ds.vars.entries, StandsFor ds p σ g e (f e.1 e.2)

theorem mem_entries_of_observed {ds : Dataset} {p : StationParts} {e : String × Variable}
    (member : e ∈ p.observed ds) : e ∈ ds.vars.entries :=
  List.mem_of_mem_filter (List.mem_of_mem_filter member)

/-! ## Observations in another order -/

/-- Whether one observation is not later than another, by the count of nanoseconds. -/
def byNanos (o q : Observation) : Bool := o.time.nanos ≤ q.time.nanos

theorem byNanos_trans (o q r : Observation) (first : byNanos o q) (second : byNanos q r) :
    byNanos o r :=
  decide_eq_true (Int.le_trans (of_decide_eq_true first) (of_decide_eq_true second))

theorem byNanos_total (o q : Observation) : byNanos o q || byNanos q o := by
  rw [Bool.or_eq_true, byNanos, byNanos, decide_eq_true_eq, decide_eq_true_eq]
  exact Int.le_total _ _

theorem mergeSort_inOrder {l : List Observation} (present : ∀ o ∈ l, o.time.isPresent) :
    l.mergeSort inOrder = l.mergeSort byNanos := by
  have same := List.map_mergeSort (f := id) (r := inOrder) (s := byNanos) (l := l)
    fun o ho q hq => inOrder_eq (present o ho) (present q hq)
  rwa [List.map_id, List.map_id] at same

/-- Sorting observations of distinct times forgets their order. -/
theorem mergeSort_of_perm {l l' : List Observation} (perm : l'.Perm l)
    (present : ∀ o ∈ l, o.time.isPresent)
    (distinct : ∀ o ∈ l, ∀ q ∈ l, o.time.nanos = q.time.nanos → o = q) :
    l'.mergeSort inOrder = l.mergeSort inOrder := by
  have present' : ∀ o ∈ l', o.time.isPresent := fun o member => present o (perm.mem_iff.1 member)
  rw [mergeSort_inOrder present, mergeSort_inOrder present']
  have sorted (l : List Observation) : (l.mergeSort byNanos).Pairwise (byNanos · ·) :=
    List.pairwise_mergeSort byNanos_trans byNanos_total l
  refine List.Perm.eq_of_pairwise (fun o q ho hq first second => ?_) (sorted l') (sorted l)
    ((List.mergeSort_perm l' _).trans (perm.trans (List.mergeSort_perm l _).symm))
  exact distinct o (perm.mem_iff.1 (List.mem_mergeSort.1 ho)) q (List.mem_mergeSort.1 hq)
    (Int.le_antisymm (of_decide_eq_true first) (of_decide_eq_true second))

/-- The observations of a station at these indices. -/
def observationsAt (ds : Dataset) (p : StationParts) (i : Nat) (js : List Nat) : List Observation :=
  js.filterMap fun j => (p.timeAt? i j).map fun t => ⟨t, valuesAt p (p.observed ds) i j⟩

theorem exists_of_mem_storedObservations {ds : Dataset} {p : StationParts} {i : Nat}
    {o : Observation} (member : o ∈ storedObservations p (p.observed ds) i) :
    ∃ j < p.obsCount, p.timeAt? i j = some o.time ∧
      o = ⟨o.time, valuesAt p (p.observed ds) i j⟩ := by
  obtain ⟨j, index, made⟩ := List.mem_filterMap.1 member
  obtain ⟨t, time, rfl⟩ := Option.map_eq_some_iff.1 made
  exact ⟨j, List.mem_range.1 index, time, rfl⟩

/-- An order that does not matter is lost when the observations are sorted. -/
theorem sorted_observationsAt {ds : Dataset} {p : StationParts} (well : ds.WellFormed)
    (parts : p.Describes ds) {σ : Nat → Nat} (free : OrderFree ds p σ) {i : Nat}
    (hi : i < p.stationCount ds) :
    (observationsAt ds p i ((List.range p.obsCount).map σ)).mergeSort inOrder =
      (storedObservations p (p.observed ds) i).mergeSort inOrder := by
  rcases free with kept | ⟨perm, distinct⟩
  · rw [List.map_congr_left fun j _ => kept j, List.map_id', storedObservations, observationsAt]
  refine mergeSort_of_perm (perm.filterMap _) (fun o member => ?_) fun o ho q hq alike => ?_
  · obtain ⟨j, hj, time, -⟩ := exists_of_mem_storedObservations member
    exact ((timeAt?_eq_some_iff well parts hi hj).1 time).2
  · obtain ⟨j, hj, time, shown⟩ := exists_of_mem_storedObservations ho
    obtain ⟨k, hk, time', shown'⟩ := exists_of_mem_storedObservations hq
    have together : o.time = q.time := congrArg Instant.mk (Int64.toInt_inj.1 alike)
    rw [← together] at time' shown'
    have index := distinct i hi j hj k hk (Option.isSome_of_eq_some time) (time.trans time'.symm)
    rw [index] at shown
    rw [shown, shown']

/-! ## The parts of a revised dataset -/

/-- A named variable with another one in its place. -/
def remade (f : String → Variable → Variable) (e : String × Variable) : String × Variable :=
  (e.1, f e.1 e.2)

/-- The parts with other variables in place of theirs. -/
def remadeParts (f : String → Variable → Variable) (p : StationParts) : StationParts :=
  { p with
    identity := p.identity.map (remade f)
    lat := remade f p.lat
    lon := remade f p.lon
    alt := p.alt.map (remade f)
    time := remade f p.time }

section Revised

variable {ds : Dataset} {kind : Option FeatureKind} {p : StationParts} {σ : Nat → Nat}
  {f : String → Variable → Variable} {g : String → Value → Value} (well : ds.WellFormed)
  (found : StationParts.find ds kind = .ok p) (same : Revises ds p σ f g)

include same

theorem refits_of_revises : ds.Refits f :=
  ⟨fun e member => (same e member).fit, fun e member => (same e member).dims⟩

/-- What is found by its name, by its attributes or as a time is found again. -/
theorem find?_revised {es : List (String × Variable)} (listed : ∀ e ∈ es, e ∈ ds.vars.entries)
    {q : String × Variable → Bool}
    (alike : ∀ (name : String) (v w : Variable), v.attributes = w.attributes →
      v.cells.isTime = w.cells.isTime → q (name, v) = q (name, w)) :
    (es.map (remade f)).find? q = (es.find? q).map (remade f) := by
  rw [List.find?_map]
  refine congrArg _ (List.find?_congr fun e member => ?_)
  have stands := same e (listed e member)
  exact alike e.1 _ _ stands.attributes stands.isTime

theorem stationVariable?_revised (standardName : String) (names units : List String) :
    Discovery.stationVariable? (ds.revise f) p.stationDim standardName names units =
      (Discovery.stationVariable? ds p.stationDim standardName names units).map (remade f) := by
  have candidates : ((ds.revise f).vars.entries.filter fun e => e.2.dims = [p.stationDim]) =
      (ds.vars.entries.filter fun e => e.2.dims = [p.stationDim]).map (remade f) := by
    rw [Dataset.entries_revise, List.filter_map]
    refine congrArg _ (List.filter_congr fun e member => ?_)
    rw [Bool.eq_iff_iff, Function.comp_apply, decide_eq_true_eq, decide_eq_true_eq]
    constructor
    · intro along
      exact ((same e member).place (.inr along)).1.symm.trans along
    · intro along
      exact ((same e member).place (.inl along)).1.trans along
  have listed : ∀ e ∈ ds.vars.entries.filter fun e => e.2.dims = [p.stationDim],
      e ∈ ds.vars.entries :=
    fun _ member => List.mem_of_mem_filter member
  unfold Discovery.stationVariable?
  simp only [candidates, Option.orElse_eq_or]
  rw [find?_revised same listed fun name v w attributes _ => by simp only [attributes],
    find?_revised same listed fun name v w attributes _ => by simp only [attributes],
    find?_revised same listed fun name v w _ _ => rfl, Option.map_or, Option.map_or]

theorem timeVariable_revised {e : String × Variable} (times : Discovery.timeVariable ds = .ok e) :
    Discovery.timeVariable (ds.revise f) = .ok (remade f e) := by
  have entries : (ds.revise f).vars.entries = ds.vars.entries.map (remade f) := rfl
  unfold Discovery.timeVariable at times ⊢
  simp only [entries, Option.orElse_eq_or] at times ⊢
  rw [find?_revised same (fun _ member => member) fun name v w attributes _ => by
      simp only [attributes],
    find?_revised same (fun _ member => member) fun name v w _ isTime => by simp only [isTime],
    ← Option.map_or]
  split at times
  · next e' first =>
    cases times
    rw [first]
    rfl
  · cases times

theorem identity?_revised :
    Discovery.identity? (ds.revise f) = (Discovery.identity? ds).map (remade f) := by
  unfold Discovery.identity?
  rw [Dataset.entries_revise]
  exact find?_revised same (fun _ member => member) fun name v w attributes _ => by
    simp only [attributes]

include found in
/-- What identifies the stations has the names of the stations and their dimension. -/
theorem naming_of_identity {e : String × Variable} (identity : p.identity = some e) :
    (f e.1 e.2).dims.head? = e.2.dims.head? ∧ namesIn (f e.1 e.2) = namesIn e.2 := by
  have parts := StationParts.find_eq_ok_iff.1 found
  have member := Discovery.identity?_mem (parts.identity.trans identity)
  have named : namedBy ds p = some e.1 := by rw [namedBy, identity]
  exact (same e member).naming named

include well

theorem stationCount_revised : (remadeParts f p).stationCount (ds.revise f) = p.stationCount ds :=
  congrArg (·.getD 0) (Dataset.sizeOf?_revise well (refits_of_revises same) p.stationDim)

theorem observed_revised :
    (remadeParts f p).observed (ds.revise f) = (p.observed ds).map (remade f) := by
  have reserved : (remadeParts f p).reserved = p.reserved := by
    unfold StationParts.reserved remadeParts
    simp only [Option.map_map]
    rfl
  unfold StationParts.observed
  rw [Dataset.dataVariables_revise well (refits_of_revises same), reserved, List.filter_map]
  refine congrArg _ (List.filter_congr fun e member => ?_)
  show (!p.reserved.contains e.1 && p.spans (f e.1 e.2)) = _
  cases reserved : p.reserved.contains e.1 with
  | true => rfl
  | false =>
      have free : e.1 ∉ p.reserved := fun listed => by
        rw [List.contains_iff_mem.2 listed] at reserved
        cases reserved
      have perm := (same e (List.mem_of_mem_filter member)).free free
      rw [StationParts.spans, StationParts.spans, perm.all_eq, perm.contains_eq, perm.contains_eq]

include found

theorem stationDimOf_revised :
    Discovery.stationDimOf (ds.revise f) (p.identity.map (remade f)) =
      Discovery.stationDimOf ds p.identity := by
  have head : ((p.identity.map (remade f)).bind fun e => e.2.dims.head?) =
      p.identity.bind fun e => e.2.dims.head? := by
    cases identity : p.identity with
    | none => rfl
    | some e => exact (naming_of_identity found same identity).1
  unfold Discovery.stationDimOf
  rw [head, Dataset.sizeOf?_revise well (refits_of_revises same)]

/-- The parts of the dataset are the variables in place of those. -/
theorem find_revised : StationParts.find (ds.revise f) kind = .ok (remadeParts f p) := by
  have parts := StationParts.find_eq_ok_iff.1 found
  have time := same _ (StationParts.describes_of_find found).time.1
  have identity : Discovery.identity? (ds.revise f) = p.identity.map (remade f) := by
    rw [identity?_revised same, parts.identity]
  refine StationParts.find_eq_ok_iff.2 {
    kind := ?_
    identity
    stationDim := (stationDimOf_revised well found same).trans parts.stationDim
    lat := ?_
    lon := ?_
    alt := ?_
    time := timeVariable_revised same parts.time
    obsDim := time.obsDim rfl
    isTime := time.isTime.trans parts.isTime }
  · have known := parts.kind
    cases kind <;> exact known
  · show Discovery.stationVariable? _ p.stationDim _ _ _ = _
    rw [stationVariable?_revised same, parts.lat]
    rfl
  · show Discovery.stationVariable? _ p.stationDim _ _ _ = _
    rw [stationVariable?_revised same, parts.lon]
    rfl
  · show Discovery.stationVariable? _ p.stationDim _ _ _ = _
    rw [stationVariable?_revised same, parts.alt]
    rfl

theorem obsCount_revised : (remadeParts f p).obsCount = p.obsCount := by
  have parts := StationParts.describes_of_find found
  have fit := (same _ parts.time.1).fit
  have present : p.obsDim ∈ p.time.2.dims := by
    rcases parts.time.2 with dims | ⟨-, dims | dims⟩ <;> simp [dims]
  have kept := (same _ parts.time.1).dims p.obsDim present
  obtain ⟨n, size⟩ := Option.isSome_iff_exists.1 ((Variable.isSome_sizeOf? fit).2 kept)
  have known := (Variable.sizeOf?_of_fits fit size).symm.trans (sizeOf?_obsDim well parts)
  show (Variable.sizeOf? (f p.time.1 p.time.2) p.obsDim).getD 0 = p.obsCount
  rw [size, Option.getD_some]
  exact Option.some.inj known

theorem names_revised : names (ds.revise f) (remadeParts f p) = names ds p := by
  have numbered : names.numbered (ds.revise f) (remadeParts f p) = names.numbered ds p := by
    unfold names.numbered
    rw [stationCount_revised well same]
  have listed := Dataset.isCoordinate_revise well (refits_of_revises same) p.stationDim
  unfold names
  simp only [numbered, Dataset.get?_revise]
  simp only [remadeParts, listed]
  cases identity : p.identity with
  | some e => exact (naming_of_identity found same identity).2
  | none =>
      cases stored : ds.vars.get? p.stationDim with
      | none => rfl
      | some v =>
          by_cases coordinate : ds.isCoordinate p.stationDim
          · have named : namedBy ds p = some p.stationDim := by simp [namedBy, identity, coordinate]
            have kept := ((same _ (Table.mem_of_get? stored)).naming named).2
            simp only [Option.map_none, Option.map_some, kept]
          · simp only [Option.map_none, Option.map_some, if_neg coordinate]

/-! ## Stations -/

omit well found in
/-- What is observed at a time is that of the time in its place, with its values changed. -/
theorem valuesAt_revised {i j : Nat} (hi : i < p.stationCount ds) (hj : j < p.obsCount) :
    valuesAt (remadeParts f p) ((p.observed ds).map (remade f)) i j =
      (valuesAt p (p.observed ds) i (σ j)).mapWith g := by
  unfold valuesAt
  rw [← Table.ofList_mapWith, List.filterMap_map, List.map_filterMap]
  congr 1
  refine List.filterMap_congr fun e member => ?_
  exact (same e (mem_entries_of_observed member)).report member i j hi hj

theorem storedObservations_revised {i : Nat} (hi : i < p.stationCount ds) :
    storedObservations (remadeParts f p) ((p.observed ds).map (remade f)) i =
      (observationsAt ds p i ((List.range p.obsCount).map σ)).map (·.revise g) := by
  unfold storedObservations observationsAt
  rw [obsCount_revised well found same, List.filterMap_map, List.map_filterMap]
  refine List.filterMap_congr fun j index => ?_
  have hj := List.mem_range.1 index
  have times := (same _ (StationParts.describes_of_find found).time.1).time rfl i j hi hj
  have time : (remadeParts f p).timeAt? i j = p.timeAt? i (σ j) := times
  rw [time, valuesAt_revised same hi hj, Function.comp_apply, Option.map_map]
  rfl

/-- The observations of a station are the same once they are sorted, with their values changed. -/
theorem sorted_revised (free : OrderFree ds p σ) {i : Nat} (hi : i < p.stationCount ds) :
    (storedObservations (remadeParts f p) ((p.observed ds).map (remade f)) i).mergeSort inOrder =
      ((storedObservations p (p.observed ds) i).mergeSort inOrder).map (·.revise g) := by
  have changed (os : List Observation) : (os.map (·.revise g)).mergeSort inOrder =
      (os.mergeSort inOrder).map (·.revise g) := by
    refine (List.map_mergeSort ?_).symm
    intro _ _ _ _
    rfl
  rw [storedObservations_revised well found same hi, changed,
    sorted_observationsAt well (StationParts.describes_of_find found) free hi]

omit well in
theorem altitudeAt_revised (i : Nat) : altitudeAt (remadeParts f p) i = altitudeAt p i := by
  have parts := StationParts.describes_of_find found
  unfold altitudeAt remadeParts
  cases altitude : p.alt with
  | none => rfl
  | some e =>
      obtain ⟨member, along⟩ := parts.alt altitude
      show numberAt? (f e.1 e.2) i = numberAt? e.2 i
      unfold numberAt?
      rw [((same e member).place (.inl along)).2]

omit well found in
theorem numberAt_revised {e : String × Variable} (member : e ∈ ds.vars.entries)
    (along : e.2.dims = [p.stationDim]) (i : Nat) :
    numberAt (remade f e).2 i = numberAt e.2 i := by
  show numberAt (f e.1 e.2) i = numberAt e.2 i
  unfold numberAt
  rw [((same e member).place (.inl along)).2]

theorem station_revised (free : OrderFree ds p σ) (ns : List String) {i : Nat}
    (hi : i < p.stationCount ds) :
    station (remadeParts f p) ((p.observed ds).map (remade f)) ns i =
      (station p (p.observed ds) ns i).map (·.revise g) := by
  have parts := StationParts.describes_of_find found
  have lat : numberAt (remadeParts f p).lat.2 i = numberAt p.lat.2 i :=
    numberAt_revised same parts.lat.1 parts.lat.2 i
  have lon : numberAt (remadeParts f p).lon.2 i = numberAt p.lon.2 i :=
    numberAt_revised same parts.lon.1 parts.lon.2 i
  unfold station
  rw [altitudeAt_revised found same, sorted_revised well found same free hi, lat, lon]
  cases altitudeAt p i with
  | error e => rfl
  | ok altitude =>
      cases ns[i]? with
      | none => rfl
      | some name =>
          cases numberAt p.lat.2 i with
          | error e => rfl
          | ok x => cases numberAt p.lon.2 i <;> rfl

omit found in
/-- What is observed can be laid out as before. -/
theorem isLaidOut_revised : isLaidOut (ds.revise f) (remadeParts f p) = isLaidOut ds p := by
  have listed (e : String × Variable) (member : e ∈ p.observed ds ++ ds.coordinates) :
      e ∈ ds.vars.entries := by
    rcases List.mem_append.1 member with observed | coordinate
    · exact mem_entries_of_observed observed
    · exact List.mem_of_mem_filter coordinate
  unfold isLaidOut
  rw [observed_revised well same, Dataset.coordinates_revise well (refits_of_revises same),
    List.isEmpty_map]
  change (_ || ((p.observed ds).map (remade f) ++ ds.coordinates.map (remade f)).all _) = _
  rw [← List.map_append, List.all_map]
  congr 1
  rw [Bool.eq_iff_iff, List.all_eq_true, List.all_eq_true]
  refine forall₂_congr fun e member => ?_
  change (!isUneven p (f e.1 e.2)) = true ↔ _
  rw [(same e (listed e member)).uneven]

theorem stations_revised (free : OrderFree ds p σ) :
    stations (ds.revise f) (remadeParts f p) =
      (stations ds p).map (List.map (·.revise g)) := by
  unfold stations
  rw [names_revised well found same, isLaidOut_revised well same]
  cases names ds p with
  | error e => rfl
  | ok ns =>
      dsimp only [bind, Except.bind]
      rw [observed_revised well same, stationCount_revised well same,
        Outcome.mapM_congr fun i index =>
          station_revised well found same free ns (List.mem_range.1 index), Outcome.mapM_map]
      split <;> rfl

/-- A collection of a revised dataset is the same with its values changed. -/
theorem result_revised (free : OrderFree ds p σ) (name : Option String) :
    (Collection.ofDataset (ds.revise f) name kind).result =
      (Collection.ofDataset ds name kind).result.map (·.revise g) := by
  have units : ((p.observed ds).map (remade f)).map (fun e => (e.1, unitOf e.2)) =
      (p.observed ds).map fun e => (e.1, unitOf e.2) := by
    rw [List.map_map]
    refine List.map_congr_left fun e member => ?_
    have stands := same e (mem_entries_of_observed member)
    show (e.1, unitOf (f e.1 e.2)) = _
    rw [unitOf, stands.attributes, unitOf]
  simp only [Collection.ofDataset, Logged.result_bind, Logged.result_lift, Logged.result_report,
    Logged.result_pure, find_revised well found same, found]
  dsimp only [Except.mapError, bind, Except.bind]
  rw [stations_revised well found same free]
  cases stations ds p with
  | error e => rfl
  | ok ss =>
      dsimp only [Except.map]
      rw [observed_revised well same, units]
      rfl

end Revised

end Loading

end Meteo
