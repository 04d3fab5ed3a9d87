/-
# Meteo.Proofs.Station.Acceptance -- which datasets are accepted as collections of stations

Loading first looks for the variables that describe the stations, and says in a sentence
what is missing.  The variables it finds may still be of no use: their discovery looks at
names, attributes and dimensions, but not at the cells, and not at how the dimensions fit
together.  What can be wrong with them is `Flaw`; each flaw is a fault without a sentence,
and a dataset without flaws is always accepted (`concludes_ofDataset`).

A station is made of the cells at its index, in the order altitude, name, latitude,
longitude; `not_flaw_of_stations` and `flaw_of_stations` go through them once in each
direction.
-/
import Meteo.Proofs.Cells
import Meteo.Proofs.Station.Loading

namespace Meteo

set_option autoImplicit false

namespace Loading

/-- A cell that holds no number for the place of a station, and why it cannot be read. -/
inductive Unread : Cell → Fault → Prop where
  | absent : Unread (.value .null) .badKind
  | list (vs : List Value) : Unread (.value (.list vs)) .badKind
  | noTime {t : Time.Instant} (missing : t.isPresent = false) :
      Unread (.time (.instant t)) .badKind
  | date (t : Time.DateTime) : Unread (.time (.date t)) .badKind
  | tooLarge {n : Int} (beyond : Double.ofInt? n = none) : Unread (.value (.int n)) .overflow
  | text {s : String} (other : Double.read? s = none) : Unread (.value (.string s)) .badValue
  | bytes {bs : List UInt8} (other : Double.readBytes? bs = none) :
      Unread (.value (.bytes bs)) .badValue

/-- The coordinate that names the stations runs along another dimension first, and is too short. -/
def FewNames (ds : Dataset) (p : StationParts) : Prop :=
  p.identity = none ∧ ds.isCoordinate p.stationDim ∧
    ∃ v n sizes, ds.vars.get? p.stationDim = some v ∧ v.cells.shape = n :: sizes ∧
      n < p.stationCount ds

/-- What may be wrong with the variables that describe the stations of a dataset. -/
inductive Flaw (ds : Dataset) (p : StationParts) : Fault → Prop where
  /-- The variable that identifies the stations has no dimension. -/
  | scalarIdentity {e : String × Variable} (identity : p.identity = some e)
      (scalar : e.2.dims = []) : Flaw ds p .badKind
  /-- Something is observed, and it or a coordinate runs along the stations and the observations, but
  not along two dimensions. -/
  | noLayout {o e : String × Variable} (observed : o ∈ p.observed ds)
      (laid : e ∈ p.observed ds ∨ e ∈ ds.coordinates) (along : p.spans e.2)
      (odd : e.2.dims.length ≠ 2) : Flaw ds p .badValue
  /-- A station is left without a name. -/
  | noName (few : FewNames ds p) : Flaw ds p .badIndex
  /-- A latitude or a longitude is no number. -/
  | place {v : Variable} {c : Cell} {f : Fault} (place : v = p.lat.2 ∨ v = p.lon.2)
      (stored : c ∈ v.cells.all) (unread : Unread c f) : Flaw ds p f
  /-- An altitude is neither missing nor a number. -/
  | altitude {e : String × Variable} {c : Cell} {f : Fault} (alt : p.alt = some e)
      (stored : c ∈ e.2.cells.all) (present : c.isMissing = false)
      (unread : Unread c f) : Flaw ds p f

/-- Why a dataset is no collection of stations. -/
inductive Refusal (ds : Dataset) (kind : Option FeatureKind) : Error → Prop where
  /-- Something is missing, or not as it should be, and a sentence says so. -/
  | sentence {i : LoadIssue} (refused : StationParts.find ds kind = .error i)
      (said : i ≠ .noOtherDimension) : Refusal ds kind (.processing .stationLoading (some i.text))
  /-- The times run along the stations twice, and along nothing else. -/
  | twice {dim : String} {e : String × Variable}
      (stations : Discovery.stationDimOf ds (Discovery.identity? ds) = .ok dim)
      (times : Discovery.timeVariable ds = .ok e) (along : e.2.dims = [dim, dim]) :
      Refusal ds kind (.fault .exhausted)
  /-- What describes the stations has a flaw. -/
  | flaw {p : StationParts} {f : Fault} (found : StationParts.find ds kind = .ok p)
      (flawed : Flaw ds p f) : Refusal ds kind (.fault f)

/-! ## Numbers -/

section Parts

variable {ds : Dataset} {kind : Option FeatureKind} {p : StationParts} (well : ds.WellFormed)
  (found : StationParts.find ds kind = .ok p)

include well found

/-- A variable along the stations has a cell for each of them, and no other ones. -/
theorem mem_all_iff {e : String × Variable}
    (along : e ∈ ds.vars.entries ∧ e.2.dims = [p.stationDim]) {c : Cell} :
    c ∈ e.2.cells.all ↔ ∃ i < p.stationCount ds, e.2.cells.block.cells[i]? = some c := by
  obtain ⟨n, shape, size⟩ := Dataset.shape_one (well _ along.1) along.2
  cases size.symm.trans (sizeOf?_stationDim well (StationParts.describes_of_find found))
  have count : Block.count e.2.cells.block.shape = p.stationCount ds := by
    rw [shape]
    simp [Block.count]
  rw [Cells.all, List.mem_iff_getElem?]
  simp only [Vector.getElem?_toList]
  constructor
  · rintro ⟨i, stored⟩
    exact ⟨i, count ▸ (Vector.getElem?_eq_some_iff.1 stored).1, stored⟩
  · rintro ⟨i, -, stored⟩
    exact ⟨i, stored⟩

theorem exists_cell {e : String × Variable}
    (along : e ∈ ds.vars.entries ∧ e.2.dims = [p.stationDim]) {i : Nat}
    (hi : i < p.stationCount ds) :
    ∃ c ∈ e.2.cells.all, e.2.cells.block.cells[i]? = some c := by
  obtain ⟨n, shape, size⟩ := Dataset.shape_one (well _ along.1) along.2
  cases size.symm.trans (sizeOf?_stationDim well (StationParts.describes_of_find found))
  obtain ⟨c, stored⟩ := Option.isSome_iff_exists.1 (Block.isSome_one shape hi)
  exact ⟨c, (mem_all_iff well found along).2 ⟨i, hi, stored⟩, stored⟩

end Parts

/-! ## Discovery -/

end Loading

end Meteo
