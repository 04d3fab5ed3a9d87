/-
# Meteo.Proofs.Station.Storage -- collections do not depend on how cells are stored

Stations are read by dimension, not by position.  Variables may be stored otherwise
(`Meteo.Proofs.Storage`) without any change of the collection, as long as each cell that
is read for an observation is a cell of the same station (`Rearranges`): in the opposite
order of the dimensions, with one time for all stations repeated for each of them, or with
the observations in another order, if no two of them have the same time.

What must stay as it is stored is the variable that names the stations (`namedBy`).  The
first dimension of a variable that identifies the stations is their dimension, and from
one with a second dimension each station has the row of its cells for a name
(`not_storesFreely`).

`StoredAs` says what may stand in place of one variable.  It is read alike, with no value
changed (`standsFor_of_storedAs`), so the collection is the same if every variable has such
a one in its place (`result_revise`).  The three ways are then each one variable's concern
(`storedAs_transposed`, `storedAs_reindexed`, `storedAs_broadcast`), and
`yields_stored_otherwise` puts them together.
-/
import Mathlib.Logic.Equiv.Basic
import Mathlib.Tactic.SplitIfs
import Meteo.Proofs.Station.Revision

namespace Meteo

set_option autoImplicit false

namespace Loading

/-- A variable may be stored in place of another one: whatever is read of a station is the same,
with the observations in the order `σ`. -/
structure StoredAs (ds : Dataset) (p : StationParts) (σ : Nat → Nat) (e : String × Variable)
    (v : Variable) : Prop where
  fit : ds.fits e.1 v
  dims (dim : String) (present : dim ∈ e.2.dims) : dim ∈ v.dims
  attributes : v.attributes = e.2.attributes
  type : v.cells.type = e.2.cells.type
  naming (named : namedBy ds p = some e.1) : v = e.2
  place (along : e.2.dims = [p.stationDim] ∨ v.dims = [p.stationDim]) : v = e.2
  time (times : e = p.time) : Discovery.obsDimOf v p.stationDim = .ok p.obsDim
  free (unreserved : e.1 ∉ p.reserved) : v.dims.Perm e.2.dims
  uneven : isUneven p v = isUneven p e.2
  cells (read : e = p.time ∨ e ∈ p.observed ds) (i j : Nat) (hi : i < p.stationCount ds)
    (hj : j < p.obsCount) : v.cellAt? (p.index i j) = e.2.cellAt? (p.index i (σ j))

/-- Every variable of a dataset may have another one in its place. -/
def Rearranges (ds : Dataset) (p : StationParts) (σ : Nat → Nat)
    (f : String → Variable → Variable) : Prop :=
  ∀ e ∈ ds.vars.entries, StoredAs ds p σ e (f e.1 e.2)

/-- Indices below a bound in another order. -/
theorem map_range_perm {σ : Equiv.Perm Nat} {n : Nat} (within : ∀ j, σ j < n ↔ j < n) :
    ((List.range n).map σ).Perm (List.range n) := by
  refine (List.perm_ext_iff_of_nodup (List.nodup_range.map σ.injective) List.nodup_range).2 ?_
  intro k
  rw [List.mem_map, List.mem_range]
  constructor
  · rintro ⟨j, below, rfl⟩
    exact (within j).2 (List.mem_range.1 below)
  · intro below
    refine ⟨σ.symm k, List.mem_range.2 ?_, σ.apply_symm_apply k⟩
    rw [← within, σ.apply_symm_apply]
    exact below

theorem swap_lt_iff {n a b : Nat} (ha : a < n) (hb : b < n) (j : Nat) :
    Equiv.swap a b j < n ↔ j < n := by
  rw [Equiv.swap_apply_def]
  split_ifs <;> omega

/-! ## Variables that are stored otherwise -/

theorem standsFor_of_storedAs {ds : Dataset} {p : StationParts} {σ : Nat → Nat}
    {e : String × Variable} {v : Variable} (apart : p.stationDim ≠ p.obsDim)
    (stored : StoredAs ds p σ e v) :
    StandsFor ds p σ (fun _ => id) e v where
  fit := stored.fit
  dims := stored.dims
  attributes := stored.attributes
  isTime := by rw [Cells.isTime, stored.type, Cells.isTime]
  naming named := by rw [stored.naming named]; exact ⟨rfl, rfl⟩
  place along := by rw [stored.place along]; exact ⟨rfl, rfl⟩
  obsDim := stored.time
  free := stored.free
  uneven := stored.uneven
  time times i j hi hj := by
    rw [cellAt?_of_apart apart, cellAt?_of_apart apart, stored.cells (.inl times) i j hi hj]
  report observed i j hi hj := by
    rw [cellAt?_of_apart apart, cellAt?_of_apart apart, stored.cells (.inr observed) i j hi hj,
      stored.type]
    exact (congrFun Option.map_id _).symm

section Rearranged

variable {ds : Dataset} {kind : Option FeatureKind} {p : StationParts} {σ : Nat → Nat}
  {f : String → Variable → Variable} (apart : p.stationDim ≠ p.obsDim)
  (same : Rearranges ds p σ f)

include apart same

theorem revises_of_rearranges : Revises ds p σ f fun _ => id :=
  fun e member => standsFor_of_storedAs apart (same e member)

theorem refits_of_rearranges : ds.Refits f := refits_of_revises (revises_of_rearranges apart same)

end Rearranged

/-- A collection is the same whichever way the cells of its dataset are stored. -/
theorem result_revise {ds : Dataset} {kind : Option FeatureKind} {p : StationParts} {σ : Nat → Nat}
    {f : String → Variable → Variable} (well : ds.WellFormed)
    (found : StationParts.find ds kind = .ok p) (apart : p.stationDim ≠ p.obsDim)
    (same : Rearranges ds p σ f) (free : OrderFree ds p σ) (name : Option String) :
    (Collection.ofDataset (ds.revise f) name kind).result =
      (Collection.ofDataset ds name kind).result := by
  rw [result_revised well found (revises_of_rearranges apart same) free]
  cases (Collection.ofDataset ds name kind).result with
  | error e => rfl
  | ok c => exact congrArg Except.ok (Collection.revise_eq_self.2 fun _ _ _ _ _ _ => rfl)

/-! ## Three ways to store the same -/

/-- A variable may stay as it is, if it is not read or the order is the same. -/
theorem storedAs_self {ds : Dataset} {kind : Option FeatureKind} {p : StationParts} {σ : Nat → Nat}
    {e : String × Variable} (well : ds.WellFormed) (found : StationParts.find ds kind = .ok p)
    (member : e ∈ ds.vars.entries) (kept : e = p.time ∨ e ∈ p.observed ds → ∀ j, σ j = j) :
    StoredAs ds p σ e e.2 where
  fit := well e member
  dims _ present := present
  attributes := rfl
  type := rfl
  naming _ := rfl
  place _ := rfl
  time times := times ▸ (StationParts.find_eq_ok_iff.1 found).obsDim
  free _ := .refl _
  uneven := rfl
  cells read i j _ _ := by rw [kept read j]

/-- To change the variables of some names, it is enough to look at these. -/
theorem rearranges_among {ds : Dataset} {kind : Option FeatureKind} {p : StationParts}
    {σ : Nat → Nat} {chosen : String → Bool} {g : Variable → Variable} (well : ds.WellFormed)
    (found : StationParts.find ds kind = .ok p)
    (changed : ∀ e ∈ ds.vars.entries, chosen e.1 → StoredAs ds p σ e (g e.2))
    (others : ∀ e, e = p.time ∨ e ∈ p.observed ds → ¬ chosen e.1 → ∀ j, σ j = j) :
    Rearranges ds p σ (Dataset.among chosen g) := by
  intro e member
  rw [Dataset.among]
  split
  · next on => exact changed e member on
  · next off => exact storedAs_self well found member fun read => others e read off

/-- The variables that are read run along the observations. -/
def ReadAlong (ds : Dataset) (p : StationParts) : Prop :=
  ∀ e, e = p.time ∨ e ∈ p.observed ds →
    Discovery.AlongObservations e.2.dims p.stationDim p.obsDim

theorem readAlong_of_stations {ds : Dataset} {p : StationParts} {ss : List Station}
    (well : ds.WellFormed) (parts : p.Describes ds) (apart : p.stationDim ≠ p.obsDim)
    (made : stations ds p = .ok ss) : ReadAlong ds p := by
  obtain ⟨same, -⟩ := stations_spec well parts made
  rintro e (rfl | observed)
  · exact parts.time.2
  · rw [same] at observed
    have rows : InRows p e.2 := by
      have kept := (List.mem_filter.1 observed).2
      rw [Bool.and_eq_true, decide_eq_true_eq] at kept
      exact kept.2
    exact .inr ⟨apart, rows⟩

section Ways

variable {ds : Dataset} {p : StationParts} {e : String × Variable} (well : ds.WellFormed)
  (parts : p.Describes ds) (apart : p.stationDim ≠ p.obsDim) (along : ReadAlong ds p)
  (member : e ∈ ds.vars.entries)

theorem lookup_obsDim (i j : Nat) : (p.index i j).lookup p.obsDim = some j := by
  simp [StationParts.index]

include apart in
theorem lookup_stationDim (i j : Nat) : (p.index i j).lookup p.stationDim = some i := by
  simp [StationParts.index, List.lookup_cons, beq_eq_false_iff_ne.2 apart]

include apart in
/-- The indices of an observation differ from those of another one in that of the observation. -/
theorem lookup_index {σ : Nat → Nat} {i j : Nat} (d : String) (k : Nat)
    (found : (p.index i j).lookup d = some k) :
    (p.index i (σ j)).lookup d = some (if d = p.obsDim then σ k else k) := by
  by_cases obs : d = p.obsDim
  · subst obs
    rw [lookup_obsDim] at found ⊢
    rw [if_pos rfl, Option.some.inj found]
  · have station : d = p.stationDim := by
      by_contra other
      simp [StationParts.index, List.lookup_cons, beq_eq_false_iff_ne.2 obs,
        beq_eq_false_iff_ne.2 other] at found
    subst station
    rw [lookup_stationDim apart] at found ⊢
    rw [if_neg obs, Option.some.inj found]

include well parts apart in
/-- The indices of an observation find a cell in each variable that is read. -/
theorem exists_indexedBy (along : Discovery.AlongObservations e.2.dims p.stationDim p.obsDim)
    (member : e ∈ ds.vars.entries) {i j : Nat} (hi : i < p.stationCount ds) (hj : j < p.obsCount) :
    ∃ is, e.2.IndexedBy (p.index i j) is := by
  have known (dim : String) (place : dim = p.obsDim ∨ dim = p.stationDim) (n : Nat)
      (size : ds.sizeOf? dim = some n) : ∃ k < n, (p.index i j).lookup dim = some k := by
    rcases place with rfl | rfl
    · cases (sizeOf?_obsDim well parts).symm.trans size
      exact ⟨j, hj, lookup_obsDim i j⟩
    · cases (sizeOf?_stationDim well parts).symm.trans size
      exact ⟨i, hi, lookup_stationDim apart i j⟩
  refine Variable.exists_indexedBy (well e member) fun dim present => known dim ?_
  rcases along with dims | ⟨-, dims | dims⟩
  · exact .inl (List.mem_singleton.1 (dims ▸ present))
  · simpa [dims, or_comm] using present
  · simpa [dims] using present

include well parts apart along member

/-- A variable of two dimensions may be stored in the opposite order, if it does not name the
stations. -/
theorem storedAs_transposed (two : e.2.dims.length = 2) (unnamed : namedBy ds p ≠ some e.1) :
    StoredAs ds p id e e.2.transposed where
  fit := Variable.fits_transposed (well e member)
  dims dim present := List.mem_reverse.2 present
  attributes := rfl
  type := rfl
  naming named := absurd named unnamed
  place alone := by
    rcases alone with dims | dims
    · rw [dims] at two
      cases two
    · have length := congrArg List.length dims
      change e.2.dims.reverse.length = 1 at length
      rw [List.length_reverse, two] at length
      cases length
  time times := by
    refine Discovery.obsDimOf_of_along apart ?_
    change Discovery.AlongObservations e.2.dims.reverse _ _
    rcases along e (.inl times) with dims | ⟨-, dims | dims⟩
    · rw [dims] at two
      cases two
    · rw [dims]
      exact .inr ⟨apart, .inr rfl⟩
    · rw [dims]
      exact .inr ⟨apart, .inl rfl⟩
  free _ := List.reverse_perm _
  uneven := isUneven_of_perm (List.reverse_perm _)
  cells read i j hi hj := by
    obtain ⟨is, indexed⟩ := exists_indexedBy well parts apart (along e read) member hi hj
    exact Variable.cellAt?_transposed indexed

/-- A variable may be stored with its observations in another order, if it does not name the
stations by them. -/
theorem storedAs_reindexed {σ : Nat → Nat} (within : ∀ j < p.obsCount, σ j < p.obsCount)
    (unnamed : namedBy ds p = some e.1 → p.obsDim ∉ e.2.dims) :
    StoredAs ds p σ e (e.2.reindexed p.obsDim σ) where
  fit := Variable.fits_reindexed (well e member) _ _
  dims dim present := by rwa [Variable.dims_reindexed]
  attributes := by rw [Variable.reindexed]; split <;> rfl
  type := by rw [Variable.reindexed]; split <;> rfl
  naming named := Variable.reindexed_of_not_mem (unnamed named) σ
  place alone := by
    rw [Variable.dims_reindexed, or_self] at alone
    exact Variable.reindexed_of_not_mem (by simp [alone, apart.symm]) σ
  time times := by
    refine Discovery.obsDimOf_of_along apart ?_
    rw [Variable.dims_reindexed]
    exact along e (.inl times)
  free _ := by rw [Variable.dims_reindexed]
  uneven := isUneven_of_perm (by rw [Variable.dims_reindexed])
  cells read i j hi hj := by
    have present : p.obsDim ∈ e.2.dims := by
      rcases along e read with dims | ⟨-, dims | dims⟩ <;> simp [dims]
    obtain ⟨is, indexed⟩ := exists_indexedBy well parts apart (along e read) member hi hj
    obtain ⟨js, indexed'⟩ :=
      exists_indexedBy well parts apart (along e read) member hi (within j hj)
    exact Variable.cellAt?_reindexed present indexed indexed' (lookup_index apart)

end Ways

/-- The times of all stations together are not what the stations have their names from. -/
theorem namedBy_ne_time {ds : Dataset} {kind : Option FeatureKind} {p : StationParts}
    (well : ds.WellFormed) (found : StationParts.find ds kind = .ok p)
    (apart : p.stationDim ≠ p.obsDim) (single : p.time.2.dims = [p.obsDim])
    (free : ds.isDimension p.time.1 = false) : namedBy ds p ≠ some p.time.1 := by
  have parts := StationParts.describes_of_find found
  intro named
  rw [namedBy] at named
  split at named
  · next e identity =>
    have fixed := StationParts.find_eq_ok_iff.1 found
    have listed := Discovery.identity?_mem (fixed.identity.trans identity)
    have same : some e.2 = some p.time.2 := by
      rw [← Table.get?_of_mem listed, Option.some.inj named, Table.get?_of_mem parts.time.1]
    have dims : e.2.dims = [p.obsDim] := Option.some.inj same ▸ single
    exact apart (Discovery.head?_of_stationDimOf fixed.stationDim identity dims).symm
  · split at named
    · have along : ds.isDimension p.stationDim := by
        rw [Dataset.isDimension_iff well, sizeOf?_stationDim well parts]
        rfl
      rw [Option.some.inj named, free] at along
      cases along
    · cases named

/-- Times for all stations may be stored for each of them. -/
theorem storedAs_broadcast {ds : Dataset} {kind : Option FeatureKind} {p : StationParts}
    (well : ds.WellFormed) (found : StationParts.find ds kind = .ok p)
    (apart : p.stationDim ≠ p.obsDim) (single : p.time.2.dims = [p.obsDim])
    (free : ds.isDimension p.time.1 = false) :
    StoredAs ds p id p.time (p.time.2.broadcast p.stationDim (p.stationCount ds)) :=
  have parts := StationParts.describes_of_find found
  have rows := sizeOf?_stationDim well parts
  { fit := Variable.fits_broadcast (well _ parts.time.1) rows
    dims := fun _ present => List.mem_cons_of_mem _ present
    attributes := rfl
    type := rfl
    naming := fun named => absurd named (namedBy_ne_time well found apart single free)
    place := by
      rintro (dims | dims)
      · exact absurd (List.singleton_inj.1 (single.symm.trans dims)) apart.symm
      · change p.stationDim :: p.time.2.dims = _ at dims
        rw [single] at dims
        cases dims
    time := fun _ => Discovery.obsDimOf_of_along apart
      (.inr ⟨apart, .inl (congrArg (p.stationDim :: ·) single)⟩)
    free := fun unreserved => absurd (by simp [StationParts.reserved]) unreserved
    uneven := by
      unfold isUneven
      simp [StationParts.spans, Variable.broadcast, single, apart]
    cells := fun _ i j hi hj => by
      obtain ⟨is, indexed⟩ := exists_indexedBy well parts apart parts.time.2 parts.time.1 hi hj
      exact Variable.cellAt?_broadcast indexed (lookup_stationDim apart i j) hi }

/-! ## The same collection -/

section Ways

variable {ds : Dataset} {kind : Option FeatureKind} {p : StationParts} (well : ds.WellFormed)
  (found : StationParts.find ds kind = .ok p) (apart : p.stationDim ≠ p.obsDim)

include well found apart

theorem rearranges_transposed (along : ReadAlong ds p) {w : String} {v : Variable}
    (read : ds.vars.get? w = some v) (two : v.dims.length = 2) (unnamed : namedBy ds p ≠ some w) :
    Rearranges ds p id (Dataset.among (· = w) Variable.transposed) := by
  have parts := StationParts.describes_of_find found
  refine rearranges_among well found (fun e member on => ?_) fun _ _ _ _ => rfl
  obtain rfl := of_decide_eq_true on
  obtain rfl := Option.some.inj ((Table.get?_of_mem member).symm.trans read)
  exact storedAs_transposed well parts apart along member two unnamed

theorem rearranges_reindexed (along : ReadAlong ds p) {σ : Nat → Nat}
    (within : ∀ j < p.obsCount, σ j < p.obsCount)
    (unnamed : ∀ w v, namedBy ds p = some w → ds.vars.get? w = some v → p.obsDim ∉ v.dims) :
    Rearranges ds p σ (Dataset.among (fun n => n = p.time.1 || !ds.isCoordinate n) fun v =>
      v.reindexed p.obsDim σ) := by
  have parts := StationParts.describes_of_find found
  refine rearranges_among well found (fun e member _ => ?_) fun e read off => ?_
  · apply storedAs_reindexed well parts apart along member within
    intro named
    exact unnamed _ _ named (Table.get?_of_mem member)
  · exfalso
    apply off
    rcases read with rfl | observed
    · simp
    · have data := (List.mem_filter.1 (List.mem_filter.1 observed).1).2
      rw [data, Bool.or_true]

theorem rearranges_broadcast (single : p.time.2.dims.length = 1)
    (free : ds.isDimension p.time.1 = false) :
    Rearranges ds p id (Dataset.among (· = p.time.1) fun v =>
      v.broadcast p.stationDim (p.stationCount ds)) := by
  have parts := StationParts.describes_of_find found
  have dims : p.time.2.dims = [p.obsDim] := by
    rcases parts.time.2 with dims | ⟨-, dims | dims⟩
    · exact dims
    · simp [dims] at single
    · simp [dims] at single
  refine rearranges_among well found (fun e member on => ?_) fun _ _ _ _ => rfl
  have name : e.1 = p.time.1 := of_decide_eq_true on
  have time : e = p.time := by
    refine Prod.ext name (Option.some.inj ?_)
    rw [← Table.get?_of_mem member, name, Table.get?_of_mem parts.time.1]
  rw [time]
  exact storedAs_broadcast well found apart dims free

end Ways

/-- A collection that is loaded has the stations that its dataset describes. -/
theorem stations_of_accepted {ds : Dataset} {name : Option String} {kind : Option FeatureKind}
    {c : Collection} (accepted : (Collection.ofDataset ds name kind).result = .ok c) :
    ∃ p, StationParts.find ds kind = .ok p ∧ stations ds p = .ok c.stations := by
  simp only [Collection.ofDataset, Logged.result_bind, Logged.result_lift, Logged.result_report,
    Logged.result_pure] at accepted
  obtain ⟨p, found, accepted⟩ := Outcome.bind_eq_ok.1 accepted
  obtain ⟨ss, made, accepted⟩ := Outcome.bind_eq_ok.1 accepted
  obtain rfl := Except.ok.inj accepted
  exact ⟨p, Outcome.eq_ok_of_mapError found, Outcome.eq_ok_of_mapError made⟩

theorem exists_of_accepted {ds : Dataset} {name : Option String} {kind : Option FeatureKind}
    {c : Collection} (accepted : (Collection.ofDataset ds name kind).result = .ok c) :
    ∃ p ss, StationParts.find ds kind = .ok p ∧ stations ds p = .ok ss := by
  obtain ⟨p, found, made⟩ := stations_of_accepted accepted
  exact ⟨p, c.stations, found, made⟩

/-- A dataset is sound, and this collection is what it is loaded as. -/
def Yields (ds : Dataset) (name : Option String) (kind : Option FeatureKind) (c : Collection) :
    Prop :=
  ds.WellFormed ∧ (Collection.ofDataset ds name kind).result = .ok c

/-- The dataset with the variable of this name in the opposite order of its dimensions. -/
def transposing (ds : Dataset) (w : String) : Dataset :=
  ds.revise (Dataset.among (· = w) Variable.transposed)

/-- The dataset with the times and all data in another order of the observations. -/
def permuting (ds : Dataset) (p : StationParts) (σ : Nat → Nat) : Dataset :=
  ds.revise (Dataset.among (fun n => n = p.time.1 || !ds.isCoordinate n) fun v =>
    v.reindexed p.obsDim σ)

/-- The dataset with the times repeated for each station. -/
def spreading (ds : Dataset) (p : StationParts) : Dataset :=
  ds.revise (Dataset.among (· = p.time.1) fun v => v.broadcast p.stationDim (p.stationCount ds))

/-- A collection does not depend on the order of the dimensions of a variable, nor on the order of
observations of different times, as long as the names of the stations stay in place; nor on whether
the times of all stations are repeated for each of them. -/
theorem yields_stored_otherwise {vars : List Variable} {attributes : Table Value}
    {declared : List String} {source : Option String} {ds : Dataset}
    (stored : Dataset.ofVariables vars attributes declared source = .ok ds)
    {name : Option String} {kind : Option FeatureKind} {c : Collection}
    (accepted : (Collection.ofDataset ds name kind).result = .ok c) {p : StationParts}
    (found : StationParts.find ds kind = .ok p) (apart : p.obsDim ≠ p.stationDim) :
    (∀ w v, ds.vars.get? w = some v → v.dims.length = 2 → namedBy ds p ≠ some w →
      Yields (transposing ds w) name kind c) ∧
    (∀ σ : Equiv.Perm Nat, (∀ j, σ j < p.obsCount ↔ j < p.obsCount) → DistinctTimes ds p →
      (∀ w v, namedBy ds p = some w → ds.vars.get? w = some v → p.obsDim ∉ v.dims) →
      Yields (permuting ds p σ) name kind c) ∧
    (p.time.2.dims.length = 1 → ds.isDimension p.time.1 = false →
      Yields (spreading ds p) name kind c) := by
  have well := Dataset.wellFormed_of_ofVariables stored
  have apart := apart.symm
  have along : ReadAlong ds p := by
    obtain ⟨p', ss, found', made⟩ := exists_of_accepted accepted
    obtain rfl := Except.ok.inj (found.symm.trans found')
    exact readAlong_of_stations well (StationParts.describes_of_find found) apart made
  have yields {σ : Nat → Nat} {f : String → Variable → Variable} (same : Rearranges ds p σ f)
      (free : OrderFree ds p σ) : Yields (ds.revise f) name kind c :=
    ⟨Dataset.wellFormed_revise well (refits_of_rearranges apart same),
      (result_revise well found apart same free name).trans accepted⟩
  refine ⟨fun w v read two unnamed => ?_, fun σ within distinct unnamed => ?_,
    fun single free => ?_⟩
  · have same := rearranges_transposed well found apart along read two unnamed
    exact yields same (.inl fun _ => rfl)
  · have same := rearranges_reindexed well found apart along (fun j => (within j).2) unnamed
    exact yields same (.inr ⟨map_range_perm within, distinct⟩)
  · have same := rearranges_broadcast well found apart single free
    exact yields same (.inl fun _ => rfl)

/-- Two stations with three observations each, under the names that a variable gives them. -/
def logged (names : Variable) : List Variable :=
  [names,
    { name := some "lat", dims := ["station"], attributes := .empty
      cells := ⟨.float64, ⟨[2], #v[.value (.float 31.0), .value (.float 32.0)]⟩⟩ },
    { name := some "lon", dims := ["station"], attributes := .empty
      cells := ⟨.float64, ⟨[2], #v[.value (.float 33.0), .value (.float 34.0)]⟩⟩ },
    { name := some "time", dims := ["obs"], attributes := .empty
      cells := ⟨.time, ⟨[3], #v[.time (.instant ⟨52⟩), .time (.instant ⟨51⟩), .time (.instant ⟨53⟩)]⟩⟩ },
    { name := some "temp", dims := ["station", "obs"], attributes := .empty
      cells := ⟨.signed 64, ⟨[2, 3], #v[.value (.int 61), .value (.int 62), .value (.int 63),
        .value (.int 64), .value (.int 65), .value (.int 66)]⟩⟩ }]

/-- A name for each station. -/
def oneEach : Variable where
  name := some "id"
  dims := ["station"]
  attributes := ⟨[("cf_role", .string "timeseries_id")], by decide⟩
  cells := ⟨.string 1, ⟨[2], #v[.value (.string "A"), .value (.string "B")]⟩⟩

theorem yields_stored_otherwise_logged :
    ∃ ds c p, Dataset.ofVariables (logged oneEach) .empty [] none = .ok ds ∧
      StationParts.find ds (some .station) = .ok p ∧
      (Collection.ofDataset ds none (some .station)).result = .ok c ∧
      Yields (transposing ds "temp") none (some .station) c ∧
      Yields (permuting ds p (Equiv.swap 0 2)) none (some .station) c ∧
      Yields (spreading ds p) none (some .station) c := by
  obtain ⟨ds, stored, loads, shown, fixed, wide⟩ :
      ∃ ds, Dataset.ofVariables (logged oneEach) .empty [] none = .ok ds ∧
        (Collection.ofDataset ds none (some .station)).result.isOk ∧
        (StationParts.find ds (some .station)).toOption.all (fun p =>
          p.obsDim = "obs" ∧ p.obsDim ≠ p.stationDim ∧ p.obsCount = 3 ∧ DistinctTimes ds p ∧
            namedBy ds p = some "id" ∧ p.time.2.dims.length = 1 ∧
            ds.isDimension p.time.1 = false) ∧
        (ds.vars.get? "id").all (fun v => !v.dims.contains "obs") ∧
        (ds.vars.get? "temp").any (fun v => v.dims.length = 2) :=
    ⟨_, rfl, by decide +kernel, by decide +kernel, by decide +kernel, by decide +kernel⟩
  cases accepted : (Collection.ofDataset ds none (some .station)).result with
  | error e => rw [accepted] at loads; cases loads
  | ok c =>
      obtain ⟨p, -, found, -⟩ := exists_of_accepted accepted
      rw [found] at shown
      obtain ⟨obs, apart, count, distinct, named, single, free⟩ := of_decide_eq_true shown
      obtain ⟨v, temp, two⟩ := (Option.any_eq_true _ _).1 wide
      have same := yields_stored_otherwise stored accepted found apart
      refine ⟨ds, c, p, stored, found, accepted, same.1 "temp" v temp (of_decide_eq_true two) ?_,
        same.2.1 (Equiv.swap 0 2) (fun j => ?_) distinct (fun w v from' read => ?_),
        same.2.2 single free⟩
      · rw [named]
        decide
      · rw [count]
        exact swap_lt_iff (by decide) (by decide) j
      · rw [named] at from'
        cases from'
        rw [read] at fixed
        rw [obs]
        simpa using fixed

/-- A name for each station and each observation. -/
def oneForEach : Variable where
  name := some "id"
  dims := ["station", "obs"]
  attributes := ⟨[("cf_role", .string "timeseries_id")], by decide⟩
  cells := ⟨.signed 64, ⟨[2, 3], #v[.value (.int 71), .value (.int 72), .value (.int 73),
    .value (.int 74), .value (.int 75), .value (.int 76)]⟩⟩

/-- Any data, and times, may be stored in the opposite order of their two dimensions. -/
def TransposesFreely : Prop :=
  ∀ (vars : List Variable) (attributes : Table Value) (declared : List String)
    (source name : Option String) (kind : Option FeatureKind) (ds : Dataset) (c : Collection)
    (p : StationParts), Dataset.ofVariables vars attributes declared source = .ok ds →
    (Collection.ofDataset ds name kind).result = .ok c → StationParts.find ds kind = .ok p →
    p.obsDim ≠ p.stationDim → ∀ w v, ds.vars.get? w = some v → v.dims.length = 2 →
      ds.isCoordinate w = false ∨ w = p.time.1 →
      (Collection.ofDataset (transposing ds w) name kind).result = .ok c

/-- All data and the times may be stored with their observations in any order. -/
def PermutesFreely : Prop :=
  ∀ (vars : List Variable) (attributes : Table Value) (declared : List String)
    (source name : Option String) (kind : Option FeatureKind) (ds : Dataset) (c : Collection)
    (p : StationParts), Dataset.ofVariables vars attributes declared source = .ok ds →
    (Collection.ofDataset ds name kind).result = .ok c → StationParts.find ds kind = .ok p →
    p.obsDim ≠ p.stationDim → ∀ σ : Equiv.Perm Nat, (∀ j, σ j < p.obsCount ↔ j < p.obsCount) →
      DistinctTimes ds p → (Collection.ofDataset (permuting ds p σ) name kind).result = .ok c

/-- Stations with a row of names each have another name when the row has another order, and another
dimension when that of the observations comes first. -/
theorem not_storesFreely : ¬ TransposesFreely ∧ ¬ PermutesFreely := by
  let read (r : Except Error Collection) : Option (List String) :=
    r.toOption.map fun c => c.stations.map Station.name
  obtain ⟨ds, stored, loads, transposed, shown, wide⟩ :
      ∃ ds, Dataset.ofVariables (logged oneForEach) .empty [] none = .ok ds ∧
        read (Collection.ofDataset ds none (some .station)).result =
          some ["[71 72 73]", "[74 75 76]"] ∧
        read (Collection.ofDataset (transposing ds "id") none (some .station)).result = none ∧
        (StationParts.find ds (some .station)).toOption.all (fun p =>
          p.obsDim ≠ p.stationDim ∧ p.obsCount = 3 ∧ DistinctTimes ds p ∧
            read (Collection.ofDataset (permuting ds p (Equiv.swap 0 2)) none
              (some .station)).result = some ["[73 72 71]", "[76 75 74]"]) ∧
        (ds.vars.get? "id").any (fun v => v.dims.length = 2 ∧ ds.isCoordinate "id" = false) :=
    ⟨_, rfl, by decide +kernel, by decide +kernel, by decide +kernel, by decide +kernel⟩
  cases accepted : (Collection.ofDataset ds none (some .station)).result with
  | error e => rw [accepted] at loads; cases loads
  | ok c =>
      obtain ⟨p, -, found, -⟩ := exists_of_accepted accepted
      rw [found] at shown
      obtain ⟨apart, count, distinct, permuted⟩ := of_decide_eq_true shown
      obtain ⟨v, id, two⟩ := (Option.any_eq_true _ _).1 wide
      obtain ⟨two, data⟩ := of_decide_eq_true two
      constructor
      · intro free
        have same := free _ _ _ _ none (some .station) ds c p stored accepted found apart "id" v id
          two (.inl data)
        rw [same] at transposed
        cases transposed
      · intro free
        have same := free _ _ _ _ none (some .station) ds c p stored accepted found apart
          (Equiv.swap 0 2) (fun j => count ▸ swap_lt_iff (by decide) (by decide) j) distinct
        rw [same, ← accepted, loads] at permuted
        exact absurd permuted (by decide)

end Loading

end Meteo
