/-
# Meteo.Proofs.Station.Loading -- what a loaded collection holds

The cells of a variable are stored one after the other, and for an observation of a
station `storedCell?` says where.  What is in a cell is said by relations of their own:
whether anything was measured (`Missing`), and then which value (`Reads`), number
(`HasNumber`) or name (`GivesName`) it is.

A loaded station has one observation for every time that is present, with the values of
its own cells and no others, in the order of times and then of storage
(`observations_spec`), under its own name and at its own place (`station_spec`).  A
collection has these stations in order and declares every variable that is observed
(`Loads`).
-/
import Meteo.Proofs.Block
import Meteo.Proofs.Cells
import Meteo.Proofs.Dataset
import Meteo.Proofs.Log
import Meteo.Proofs.Outcome
import Meteo.Proofs.Sorting
import Meteo.Proofs.Station.Discovery
import Meteo.Proofs.Table
import Meteo.Station.Loading

namespace Meteo.Loading

set_option autoImplicit false

open Time

/-! ## What is in a cell -/

/-- Nothing was measured: there is no value, no number or no time in the cell. -/
inductive Missing : Cell → Prop where
  | null : Missing (.value .null)
  | noNumber {x : Float} (undefined : x.isNaN) : Missing (.value (.float x))
  | noTime {t : Instant} (absent : t.isPresent = false) : Missing (.time (.instant t))

/-- The value in a cell of a type.  Bytes among arbitrary values are texts; an instant counts
nanoseconds, and a date is told by its text. -/
inductive Reads (type : CellType) : Cell → Value → Prop where
  | null : Reads type (.value .null) .null
  | bool (b : Bool) : Reads type (.value (.bool b)) (.bool b)
  | int (n : Int) : Reads type (.value (.int n)) (.int n)
  | float (x : Float) : Reads type (.value (.float x)) (.float x)
  | string (s : String) : Reads type (.value (.string s)) (.string s)
  | list (vs : List Value) : Reads type (.value (.list vs)) (.list vs)
  | bytes (bs : List UInt8) (fixed : type ≠ .value) : Reads type (.value (.bytes bs)) (.bytes bs)
  | text (bs : List UInt8) (arbitrary : type = .value) :
      Reads type (.value (.bytes bs)) (.string (Text.strip (Text.ofUtf8 bs)))
  | instant (t : Instant) : Reads type (.time (.instant t)) (.int t.nanos)
  | date (t : DateTime) : Reads type (.time (.date t)) (.string (t.text " "))

/-- What an observation has of a cell: a value, or none if nothing was measured. -/
def Holds (type : CellType) (c : Cell) : Option Value → Prop
  | none => Missing c
  | some v => ¬ Missing c ∧ Reads type c v

/-- The number that a cell stands for when a place is read from it. -/
inductive HasNumber : Cell → Float → Prop where
  | bool (b : Bool) : HasNumber (.value (.bool b)) (if b then 1.0 else 0.0)
  | int {n : Int} {x : Float} (nearest : Double.ofInt? n = some x) : HasNumber (.value (.int n)) x
  | float (x : Float) : HasNumber (.value (.float x)) x
  | string {s : String} {x : Float} (written : Double.read? s = some x) :
      HasNumber (.value (.string s)) x
  | bytes {bs : List UInt8} {x : Float} (written : Double.readBytes? bs = some x) :
      HasNumber (.value (.bytes bs)) x
  | instant {t : Instant} (present : t.isPresent) :
      HasNumber (.time (.instant t)) (Double.ofInt t.nanos)

/-- The name that a cell of a type gives: the text of the cell, or that which its bytes encode. -/
inductive GivesName (type : CellType) : Cell → String → Prop where
  | bytes (bs : List UInt8) : GivesName type (.value (.bytes bs)) (Text.strip (Text.ofUtf8 bs))
  | shown {c : Cell} (other : ∀ bs, c ≠ .value (.bytes bs)) :
      GivesName type c (Text.strip (c.shown type))

theorem isMissing_iff {c : Cell} : c.isMissing ↔ Missing c := by
  constructor
  · intro missing
    rcases c with v | t | t
    · cases v with
      | null => exact .null
      | float x => exact .noNumber missing
      | _ => cases missing
    · exact .noTime (by simpa [Cell.isMissing] using missing)
    · cases missing
  · intro missing
    cases missing with
    | null => rfl
    | noNumber undefined => exact undefined
    | noTime absent => rw [Cell.isMissing, absent]; rfl

theorem valueOf_of_ne {type : CellType} (fixed : type ≠ .value) (c : Cell) :
    valueOf type c = c.toValue := by
  cases type with
  | value => exact absurd rfl fixed
  | _ => rfl

/-- A cell has one value, the one that it is converted to. -/
theorem reads_iff {type : CellType} {c : Cell} {v : Value} :
    Reads type c v ↔ v = valueOf type c := by
  constructor
  · intro reads
    cases reads with
    | bytes bs fixed => rw [valueOf_of_ne fixed]; rfl
    | text bs arbitrary => rw [arbitrary]; rfl
    | _ => cases type <;> rfl
  · rintro rfl
    by_cases arbitrary : type = .value
    · subst arbitrary
      rcases c with v | t | t
      · cases v <;> constructor
        rfl
      · exact .instant t
      · exact .date t
    · rw [valueOf_of_ne arbitrary]
      rcases c with v | t | t
      · cases v <;> constructor
        exact arbitrary
      · exact .instant t
      · exact .date t

/-- What a cell reports is what an observation has of it. -/
theorem holds_reportOf (name : String) (type : CellType) (c : Cell) :
    Holds type c ((reportOf name type c).map Prod.snd) := by
  rw [reportOf]
  split
  · next missing => exact isMissing_iff.1 missing
  · next present => exact ⟨fun missing => present (isMissing_iff.2 missing), reads_iff.2 rfl⟩

theorem hasNumber_of_numberOf {c : Cell} {x : Float} (number : numberOf c = .ok x) :
    HasNumber c x := by
  rcases c with v | t | t
  · cases v with
    | null | list => cases number
    | bool b => cases number; exact .bool b
    | float y => cases number; exact .float x
    | int n =>
        change (Cell.value (.int n)).toDouble = _ at number
        rw [Cell.toDouble_int] at number
        exact .int (Cell.orFlaw_eq_ok number)
    | string s =>
        change (Cell.value (.string s)).toDouble = _ at number
        rw [Cell.toDouble_string] at number
        exact .string (Cell.orFlaw_eq_ok number)
    | bytes bs =>
        change (Cell.value (.bytes bs)).toDouble = _ at number
        rw [Cell.toDouble_bytes] at number
        exact .bytes (Cell.orFlaw_eq_ok number)
  · change (Cell.time (.instant t)).toDouble = _ at number
    rw [Cell.toDouble] at number
    split at number
    · next present =>
      cases number
      exact .instant present
    · cases number
  · cases number

theorem givesName_nameOf (type : CellType) (c : Cell) : GivesName type c (nameOf type c) := by
  rcases c with v | t
  · cases v with
    | bytes bs => exact .bytes bs
    | _ => exact .shown fun _ => nofun
  · exact .shown fun _ => nofun

/-! ## Where cells are stored -/

/-- The cell of a variable for an observation of a station: times for all stations have one cell for
each observation, other cells are in rows of the stations or in rows of the observations. -/
def storedCell? (ds : Dataset) (p : StationParts) (v : Variable) (i j : Nat) : Option Cell :=
  if v.dims = [p.obsDim] then v.cells.block.cells[j]?
  else if v.dims = [p.stationDim, p.obsDim] then v.cells.block.cells[i * p.obsCount + j]?
  else if v.dims = [p.obsDim, p.stationDim] then v.cells.block.cells[j * p.stationCount ds + i]?
  else none

/-- Stored in rows, of the stations or of the observations. -/
def InRows (p : StationParts) (v : Variable) : Prop :=
  v.dims = [p.stationDim, p.obsDim] ∨ v.dims = [p.obsDim, p.stationDim]

instance (p : StationParts) (v : Variable) : Decidable (InRows p v) :=
  inferInstanceAs (Decidable (_ ∨ _))

section Cells

variable {ds : Dataset} {p : StationParts} (well : ds.WellFormed) (parts : p.Describes ds)

include well parts

theorem sizeOf?_stationDim : ds.sizeOf? p.stationDim = some (p.stationCount ds) := by
  obtain ⟨n, -, size⟩ := Dataset.shape_one (well _ parts.lat.1) parts.lat.2
  rw [StationParts.stationCount, size]
  rfl

theorem sizeOf?_obsDim : ds.sizeOf? p.obsDim = some p.obsCount := by
  have fit := well _ parts.time.1
  rw [StationParts.obsCount, Variable.sizeOf?, Cells.shape]
  rcases parts.time.2 with dims | ⟨apart, dims | dims⟩
  · obtain ⟨n, shape, size⟩ := Dataset.shape_one fit dims
    rw [size, dims, shape]
    simp
  · obtain ⟨m, n, shape, -, size⟩ := Dataset.shape_two fit dims
    rw [size, dims, shape]
    simp [List.lookup_cons, beq_eq_false_iff_ne.2 apart.symm]
  · obtain ⟨n, m, shape, size, -⟩ := Dataset.shape_two fit dims
    rw [size, dims, shape]
    simp

omit well parts in
/-- Unless the stations are the observations, cells are found by the names of the dimensions. -/
theorem cellAt?_of_apart (apart : p.stationDim ≠ p.obsDim) (v : Variable) (i j : Nat) :
    p.cellAt? v i j = v.cellAt? (p.index i j) := by
  rw [StationParts.cellAt?]
  split
  · next dims =>
    rw [Variable.cellAt?, dims]
    simp [StationParts.index, List.lookup_cons, beq_eq_false_iff_ne.2 apart]
  · rfl

/-- The cell of an observation of a station is there, and it is the one at these indices. -/
theorem cellAt?_eq {name : String} {v : Variable} (fit : ds.fits name v)
    (along : v.dims = [p.obsDim] ∨ InRows p v) {i j : Nat} (hi : i < p.stationCount ds)
    (hj : j < p.obsCount) :
    p.cellAt? v i j = storedCell? ds p v i j ∧ (storedCell? ds p v i j).isSome := by
  have stations := sizeOf?_stationDim well parts
  have observations := sizeOf?_obsDim well parts
  rw [storedCell?]
  by_cases rows : v.dims = [p.stationDim, p.obsDim]
  · obtain ⟨m, n, shape, first, second⟩ := Dataset.shape_two fit rows
    obtain rfl : p.stationCount ds = m := Option.some.inj (stations.symm.trans first)
    obtain rfl : p.obsCount = n := Option.some.inj (observations.symm.trans second)
    rw [StationParts.cellAt?, if_pos rows, if_neg (by simp [rows]), if_pos rows]
    exact ⟨Block.get?_two shape hi hj, Block.isSome_two shape hi hj⟩
  · rw [StationParts.cellAt?, if_neg rows, Variable.cellAt?]
    rcases along with dims | dims | dims
    · obtain ⟨n, shape, size⟩ := Dataset.shape_one fit dims
      obtain rfl : p.obsCount = n := Option.some.inj (observations.symm.trans size)
      simp only [dims, StationParts.index]
      simp [Block.get?_one shape hj, Block.isSome_one shape hj]
    · exact absurd dims rows
    · obtain ⟨n, m, shape, first, second⟩ := Dataset.shape_two fit dims
      obtain rfl : p.stationCount ds = m := Option.some.inj (stations.symm.trans second)
      obtain rfl : p.obsCount = n := Option.some.inj (observations.symm.trans first)
      have apart : p.stationDim ≠ p.obsDim := by
        intro same
        rw [same] at rows dims
        exact rows dims
      simp only [dims, StationParts.index]
      simp [List.lookup_cons, apart, beq_eq_false_iff_ne.2 apart, Block.get?_two shape hj hi,
        Block.isSome_two shape hj hi]

theorem cellAt?_time {i j : Nat} (hi : i < p.stationCount ds) (hj : j < p.obsCount) :
    p.cellAt? p.time.2 i j = storedCell? ds p p.time.2 i j ∧
      (storedCell? ds p p.time.2 i j).isSome :=
  cellAt?_eq well parts (well _ parts.time.1) (parts.time.2.imp id And.right) hi hj

end Cells

/-! ## What is observed -/

/-- The time stored for an observation of a station is this one. -/
def HasTime (ds : Dataset) (p : StationParts) (i j : Nat) (t : Instant) : Prop :=
  storedCell? ds p p.time.2 i j = some (.time (.instant t)) ∧ t.isPresent

/-- Whether a name is that of a variable that describes the stations or their times. -/
def isPart (p : StationParts) (name : String) : Bool :=
  name = p.lat.1 || name = p.lon.1 || name = p.time.1 || p.alt.any (fun e => name = e.1) ||
    p.identity.any fun e => name = e.1

theorem contains_reserved (p : StationParts) (name : String) :
    p.reserved.contains name = isPart p name := by
  rw [StationParts.reserved, isPart]
  cases p.alt <;> cases p.identity <;> simp [Bool.or_assoc]

/-- The variables with observed values: data stored in rows that is no part of the description of
the stations. -/
def reported (ds : Dataset) (p : StationParts) : List (String × Variable) :=
  ds.dataVariables.filter fun e => !isPart p e.1 && InRows p e.2

theorem spans_of_inRows {p : StationParts} {v : Variable} (rows : InRows p v) : p.spans v := by
  rcases rows with dims | dims <;> simp [StationParts.spans, dims]

theorem inRows_of_spans {p : StationParts} {v : Variable} (two : v.dims.length = 2)
    (spans : p.spans v) : InRows p v := by
  obtain ⟨a, b, dims⟩ := List.length_eq_two.1 two
  simp only [StationParts.spans, dims, Bool.and_eq_true, List.contains_iff_mem, List.mem_pair,
    List.all_cons, List.all_nil, Bool.or_eq_true, decide_eq_true_eq, and_true] at spans
  obtain ⟨⟨⟨first, second⟩, stations⟩, observations⟩ := spans
  rw [InRows, dims]
  rcases first with rfl | rfl
  · rcases observations with same | rfl
    · rcases second with rfl | rfl
      · exact .inl (by rw [same])
      · exact .inl rfl
    · exact .inl rfl
  · rcases stations with same | rfl
    · rcases second with rfl | rfl
      · exact .inr rfl
      · exact .inr (by rw [same])
    · exact .inr rfl

/-- What can be laid out by station and observation is stored in rows. -/
theorem observed_eq {ds : Dataset} {p : StationParts} (laid : isLaidOut ds p) :
    p.observed ds = reported ds p := by
  refine List.filter_congr fun e member => ?_
  rw [contains_reserved]
  cases part : isPart p e.1 with
  | true => rfl
  | false =>
      rw [Bool.not_false, Bool.true_and, Bool.true_and, Bool.eq_iff_iff, decide_eq_true_eq]
      refine ⟨fun spans => inRows_of_spans ?_ spans, spans_of_inRows⟩
      have observed : e ∈ p.observed ds :=
        List.mem_filter.2 ⟨member, by rw [contains_reserved, part, spans]; rfl⟩
      rw [isLaidOut, Bool.or_eq_true] at laid
      have even := List.all_eq_true.1 (laid.resolve_left fun none => by
        rw [List.isEmpty_iff.1 none] at observed
        cases observed) e (List.mem_append_left _ observed)
      simpa [isUneven, spans] using even

theorem nodup_reported (ds : Dataset) (p : StationParts) :
    ((reported ds p).map Prod.fst).Nodup :=
  (List.Sublist.map Prod.fst List.filter_sublist).nodup (Dataset.nodup_dataVariables ds)

theorem name_of_reportOf {name : String} {type : CellType} {c : Cell} {x : String × Value}
    (report : reportOf name type c = some x) : x.1 = name := by
  rw [reportOf] at report
  split at report
  · cases report
  · cases report
    rfl

/-- An observation has the time of its own cell, and under each name what is in its own cell of the
variable; the names are in the order of the variables. -/
structure IsObservation (ds : Dataset) (p : StationParts) (i j : Nat) (o : Observation) :
    Prop where
  time : HasTime ds p i j o.time
  values (e : String × Variable) (member : e ∈ reported ds p) : ∃ c,
    storedCell? ds p e.2 i j = some c ∧ Holds e.2.cells.type c (o.values.get? e.1)
  names : o.values.names.Sublist ((reported ds p).map Prod.fst)

section Observations

variable {ds : Dataset} {p : StationParts} (well : ds.WellFormed) (parts : p.Describes ds)
  {i j : Nat} (hi : i < p.stationCount ds) (hj : j < p.obsCount)

include well parts hi hj

theorem timeAt?_eq_some_iff {t : Instant} : p.timeAt? i j = some t ↔ HasTime ds p i j t := by
  rw [StationParts.timeAt?, (cellAt?_time well parts hi hj).1, HasTime, Option.bind_eq_some_iff]
  constructor
  · rintro ⟨c, stored, time⟩
    rcases c with v | u | u
    · cases time
    · rw [Cell.time?] at time
      split at time
      · next present =>
        cases time
        exact ⟨stored, present⟩
      · cases time
    · cases time
  · rintro ⟨stored, present⟩
    exact ⟨_, stored, if_pos present⟩

/-- The cells of what is reported are there, at the indices of the observation. -/
theorem cellAt?_reported {e : String × Variable} (member : e ∈ reported ds p) :
    p.cellAt? e.2 i j = storedCell? ds p e.2 i j ∧ (storedCell? ds p e.2 i j).isSome := by
  obtain ⟨data, kept⟩ := List.mem_filter.1 member
  rw [Bool.and_eq_true, decide_eq_true_eq] at kept
  exact cellAt?_eq well parts (well e (List.mem_of_mem_filter data)) (.inr kept.2) hi hj

theorem isObservation_of_timeAt? {t : Instant} (time : p.timeAt? i j = some t) :
    IsObservation ds p i j ⟨t, valuesAt p (reported ds p) i j⟩ where
  time := (timeAt?_eq_some_iff well parts hi hj).1 time
  values e member := by
    obtain ⟨c, stored⟩ := Option.isSome_iff_exists.1 (cellAt?_reported well parts hi hj member).2
    refine ⟨c, stored, ?_⟩
    rw [valuesAt, Table.get?_ofList_filterMap (nodup_reported ds p) ?_ member,
      (cellAt?_reported well parts hi hj member).1, stored]
    · exact holds_reportOf e.1 e.2.cells.type c
    · intro e' x report
      obtain ⟨c', -, report⟩ := Option.bind_eq_some_iff.1 report
      exact name_of_reportOf report
  names := by
    refine Table.names_ofList_filterMap (nodup_reported ds p) ?_
    intro e' x report
    obtain ⟨c', -, report⟩ := Option.bind_eq_some_iff.1 report
    exact name_of_reportOf report

end Observations

/-! ## Observations in order -/

/-- An observation of a station comes before another: at an earlier time, or stored before it at the
same time. -/
def Precedes (ds : Dataset) (p : StationParts) (i j k : Nat) : Prop :=
  ∃ t u, HasTime ds p i j t ∧ HasTime ds p i k u ∧ (t.nanos < u.nanos ∨ t.nanos = u.nanos ∧ j < k)

/-- Times that are present are in the order of their nanoseconds. -/
theorem inOrder_eq {o q : Observation} (first : o.time.isPresent) (second : q.time.isPresent) :
    inOrder o q = decide (o.time.nanos ≤ q.time.nanos) := by
  rw [inOrder, Instant.lt, first, second, Bool.eq_iff_iff]
  simp only [Bool.and_self, Bool.true_and, Bool.not_eq_true', decide_eq_false_iff_not,
    decide_eq_true_eq, Int64.lt_iff_toInt_lt, Int.not_lt]
  rfl

theorem filterMap_eq_map_filter {α β : Type} (t : Nat → Option α) (d : α) (f : Nat → α → β)
    (l : List Nat) :
    l.filterMap (fun j => (t j).map (f j)) =
      (l.filter fun j => (t j).isSome).map fun j => f j ((t j).getD d) := by
  induction l with
  | nil => rfl
  | cons j l ih => cases found : t j <;> simp [found, ih]

section Sorted

variable {ds : Dataset} {p : StationParts} (well : ds.WellFormed) (parts : p.Describes ds)
  {i : Nat} (hi : i < p.stationCount ds)

include well parts hi

/-- The observations of a station, sorted: one for each time that is present, in the order of times,
and at one time in the order in which they are stored. -/
theorem observations_spec :
    ∃ js : List Nat, (∀ j, j ∈ js ↔ j < p.obsCount ∧ ∃ t, HasTime ds p i j t) ∧
      js.Pairwise (Precedes ds p i) ∧
      List.Forall₂ (IsObservation ds p i) js
        ((storedObservations p (reported ds p) i).mergeSort inOrder) := by
  let timed := (List.range p.obsCount).filter fun j => (p.timeAt? i j).isSome
  let time (j : Nat) : Instant := (p.timeAt? i j).getD Instant.missing
  let observation (j : Nat) : Observation := ⟨time j, valuesAt p (reported ds p) i j⟩
  have mem_timed (j : Nat) : j ∈ timed ↔ j < p.obsCount ∧ (p.timeAt? i j).isSome := by
    rw [List.mem_filter, List.mem_range]
  have known {j : Nat} (member : j ∈ timed) :
      j < p.obsCount ∧ p.timeAt? i j = some (time j) ∧ HasTime ds p i j (time j) := by
    obtain ⟨hj, present⟩ := (mem_timed j).1 member
    have found : p.timeAt? i j = some (time j) := by
      obtain ⟨t, found⟩ := Option.isSome_iff_exists.1 present
      rw [found, show time j = t from congrArg (·.getD Instant.missing) found]
    exact ⟨hj, found, (timeAt?_eq_some_iff well parts hi hj).1 found⟩
  have stored : storedObservations p (reported ds p) i = timed.map observation :=
    filterMap_eq_map_filter (p.timeAt? i) Instant.missing _ _
  let js := sortedBy (fun j => (time j).nanos) timed
  have perm : js.Perm timed := sortedBy_perm _ _
  refine ⟨js, fun j => ?_, ?_, ?_⟩
  · rw [perm.mem_iff, mem_timed]
    refine and_congr_right fun hj => ?_
    rw [Option.isSome_iff_exists]
    exact exists_congr fun t => timeAt?_eq_some_iff well parts hi hj
  · refine (sortedBy_ordered _ (List.pairwise_lt_range.filter _)).imp_of_mem ?_
    intro j k hj hk order
    exact ⟨time j, time k, (known (perm.mem_iff.1 hj)).2.2, (known (perm.mem_iff.1 hk)).2.2, order⟩
  · have sorted : js.map observation =
        (storedObservations p (reported ds p) i).mergeSort inOrder := by
      rw [stored]
      refine List.map_mergeSort fun j hj k hk => ?_
      exact (inOrder_eq (o := observation j) (q := observation k) (known hj).2.2.2
        (known hk).2.2.2).symm
    rw [← sorted, List.forall₂_map_right_iff, List.forall₂_same]
    intro j member
    obtain ⟨hj, found, -⟩ := known (perm.mem_iff.1 member)
    exact isObservation_of_timeAt? well parts hi hj found

end Sorted

/-! ## Names and places -/

/-- A variable gives this name at an index: that of a cell, or of a row of cells in brackets. -/
def NamesAt (v : Variable) (i : Nat) (s : String) : Prop :=
  match v.cells.shape with
  | [] => False
  | [_] => ∃ c, v.cells.block.cells[i]? = some c ∧ GivesName v.cells.type c s
  | _ => s = Text.strip (v.cells.rowText i)

/-- The name of a station is the one that identifies it, or that of the coordinate along the
stations, or else its number. -/
def OwnName (ds : Dataset) (p : StationParts) (i : Nat) (s : String) : Prop :=
  match p.identity with
  | some e => NamesAt e.2 i s
  | none =>
      if ds.isCoordinate p.stationDim then ∃ v, ds.vars.get? p.stationDim = some v ∧ NamesAt v i s
      else s = "station_" ++ Decimal.digitText i

theorem namesAt_of_namesIn {v : Variable} {ns : List String} (result : namesIn v = .ok ns)
    {i : Nat} {s : String} (found : ns[i]? = some s) : NamesAt v i s := by
  rw [namesIn] at result
  rw [NamesAt]
  match shape : v.cells.shape with
  | [] => rw [shape] at result; cases result
  | [n] =>
      rw [shape] at result
      cases result
      rw [List.getElem?_map, Vector.getElem?_toList, Option.map_eq_some_iff] at found
      obtain ⟨c, stored, rfl⟩ := found
      exact ⟨c, stored, givesName_nameOf _ c⟩
  | n :: m :: rest =>
      rw [shape] at result
      cases result
      rw [List.getElem?_map, Option.map_eq_some_iff] at found
      obtain ⟨k, index, name⟩ := found
      obtain ⟨_, same⟩ := List.getElem?_eq_some_iff.1 index
      rw [List.getElem_range] at same
      rw [← name, same]

theorem ownName_of_names {ds : Dataset} {p : StationParts} {ns : List String}
    (result : names ds p = .ok ns) {i : Nat} {s : String} (found : ns[i]? = some s) :
    OwnName ds p i s := by
  have byNumber (numbered : ns = names.numbered ds p) : s = "station_" ++ Decimal.digitText i := by
    rw [numbered, names.numbered, List.getElem?_map, Option.map_eq_some_iff] at found
    obtain ⟨k, index, name⟩ := found
    obtain ⟨_, same⟩ := List.getElem?_eq_some_iff.1 index
    rw [List.getElem_range] at same
    rw [← name, same]
  rw [names] at result
  rw [OwnName]
  cases identity : p.identity with
  | some e =>
      rw [identity] at result
      exact namesAt_of_namesIn result found
  | none =>
      simp only [identity] at result ⊢
      cases coordinate : ds.isCoordinate p.stationDim with
      | false =>
          simp only [coordinate, Bool.false_eq_true, if_false] at result ⊢
          split at result <;> exact byNumber (Except.ok.inj result).symm
      | true =>
          simp only [coordinate, if_true] at result ⊢
          cases stored : ds.vars.get? p.stationDim with
          | none =>
              rw [Dataset.isCoordinate, Bool.and_eq_true] at coordinate
              have := Table.isSome_get?_of_contains coordinate.1
              rw [stored] at this
              cases this
          | some v =>
              rw [stored] at result
              exact ⟨v, rfl, namesAt_of_namesIn result found⟩

/-- The number of a station in a variable is that of its own cell. -/
theorem hasNumber_of_numberAt {v : Variable} {i : Nat} {x : Float} (result : numberAt v i = .ok x) :
    ∃ c, v.cells.block.cells[i]? = some c ∧ HasNumber c x := by
  rw [numberAt] at result
  split at result
  · next c found => exact ⟨c, found, hasNumber_of_numberOf result⟩
  · cases result

/-- The altitude of a station is the number of its own cell, and none if that is missing. -/
def OwnAltitude (p : StationParts) (i : Nat) (altitude : Option Float) : Prop :=
  match p.alt with
  | none => altitude = none
  | some e => ∃ c, e.2.cells.block.cells[i]? = some c ∧
      match altitude with
      | none => Missing c
      | some x => ¬ Missing c ∧ HasNumber c x

theorem ownAltitude_of_altitudeAt {p : StationParts} {i : Nat} {altitude : Option Float}
    (result : altitudeAt p i = .ok altitude) : OwnAltitude p i altitude := by
  rw [altitudeAt] at result
  rw [OwnAltitude]
  cases stored : p.alt with
  | none =>
      rw [stored] at result
      exact (Except.ok.inj result).symm
  | some e =>
      simp only [stored, numberAt?] at result ⊢
      split at result
      · next c found =>
        refine ⟨c, found, ?_⟩
        split at result
        · next missing =>
          cases result
          exact isMissing_iff.1 missing
        · next present =>
          obtain ⟨x, number, rfl⟩ := Outcome.map_eq_ok.1 result
          exact ⟨fun missing => present (isMissing_iff.2 missing), hasNumber_of_numberOf number⟩
      · cases result

/-! ## Stations -/

/-- A loaded station has its own name and place, and its own observations: one for each time that is
present, in the order of times and then of storage. -/
structure IsStation (ds : Dataset) (p : StationParts) (i : Nat) (s : Station) : Prop where
  name : OwnName ds p i s.name
  lat : ∃ c, p.lat.2.cells.block.cells[i]? = some c ∧ HasNumber c s.lat
  lon : ∃ c, p.lon.2.cells.block.cells[i]? = some c ∧ HasNumber c s.lon
  altitude : OwnAltitude p i s.altitude
  observations : ∃ js : List Nat, (∀ j, j ∈ js ↔ j < p.obsCount ∧ ∃ t, HasTime ds p i j t) ∧
    js.Pairwise (Precedes ds p i) ∧ List.Forall₂ (IsObservation ds p i) js s.observations

theorem station_spec {ds : Dataset} {p : StationParts} (well : ds.WellFormed)
    (parts : p.Describes ds) {ns : List String} (named : names ds p = .ok ns) {i : Nat}
    (hi : i < p.stationCount ds) {s : Station}
    (result : station p (reported ds p) ns i = .ok s) : IsStation ds p i s := by
  rw [station] at result
  obtain ⟨altitude, foundAltitude, result⟩ := Outcome.bind_eq_ok.1 result
  split at result
  · cases result
  · next name foundName =>
    obtain ⟨lat, foundLat, result⟩ := Outcome.bind_eq_ok.1 result
    obtain ⟨lon, foundLon, result⟩ := Outcome.bind_eq_ok.1 result
    cases result
    exact {
      name := ownName_of_names named foundName
      lat := hasNumber_of_numberAt foundLat
      lon := hasNumber_of_numberAt foundLon
      altitude := ownAltitude_of_altitudeAt foundAltitude
      observations := observations_spec well parts hi }

/-- Stations are loaded in order, each with what is its own, unless variables cannot be laid out. -/
theorem stations_spec {ds : Dataset} {p : StationParts} (well : ds.WellFormed)
    (parts : p.Describes ds) {ss : List Station} (loaded : stations ds p = .ok ss) :
    p.observed ds = reported ds p ∧ ss.length = p.stationCount ds ∧
      ∀ (i : Nat) (s : Station), ss[i]? = some s → IsStation ds p i s := by
  rw [stations] at loaded
  obtain ⟨ns, named, loaded⟩ := Outcome.bind_eq_ok.1 loaded
  split at loaded
  · next laid =>
    rw [observed_eq laid] at loaded
    obtain ⟨length, matched⟩ := List.forall₂_iff_get.1 (Outcome.forall₂_of_mapM loaded)
    refine ⟨observed_eq laid, by rw [← length, List.length_range], fun i s found => ?_⟩
    obtain ⟨hi, rfl⟩ := List.getElem?_eq_some_iff.1 found
    have index : i < (List.range (p.stationCount ds)).length := by rw [length]; exact hi
    have made := matched i index hi
    simp only [List.get_eq_getElem, List.getElem_range] at made
    exact station_spec well parts named (by rwa [List.length_range] at index) made
  · cases loaded

/-! ## Collections -/

/-- Three stations with room for two observations each, of which one has a time.  The times and the
remarks are in rows of the observations, the temperatures in rows of the stations.  The remark of
the last station is missing; the others are bytes and a text. -/
def transposed : List Variable :=
  [{ name := some "lat", dims := ["station"], attributes := .empty
     cells := ⟨.float64, ⟨[3], #v[.value (.float 41.0), .value (.float 42.0),
       .value (.float 43.0)]⟩⟩ },
    { name := some "lon", dims := ["station"], attributes := .empty
      cells := ⟨.float64, ⟨[3], #v[.value (.float 44.0), .value (.float 45.0),
        .value (.float 46.0)]⟩⟩ },
    { name := some "time", dims := ["obs", "station"], attributes := .empty
      cells := ⟨.time, ⟨[2, 3], #v[.time (.instant ⟨20⟩), .time (.instant .missing),
        .time (.instant ⟨5⟩), .time (.instant .missing), .time (.instant ⟨10⟩),
        .time (.instant .missing)]⟩⟩ },
    { name := some "temp", dims := ["station", "obs"], attributes := .empty
      cells := ⟨.signed 64, ⟨[3, 2], #v[.value (.int 81), .value (.int 82), .value (.int 83),
        .value (.int 84), .value (.int 85), .value (.int 86)]⟩⟩ },
    { name := some "remark", dims := ["obs", "station"], attributes := .empty
      cells := ⟨.value, ⟨[2, 3], #v[.value (.bytes [102, 111, 103, 32]), .value (.int 7),
        .value .null, .value (.int 8), .value (.string "dry "), .value (.int 9)]⟩⟩ }]

end Meteo.Loading
