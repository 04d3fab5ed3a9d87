/-
# Meteo.Proofs.Station.Discovery -- what the parts of a dataset are like

The parts that `StationParts.find` returns belong to the dataset: places and
altitudes along the stations alone, and times along one dimension for all stations or
along the stations and another dimension, in either order.
-/
import Meteo.Proofs.Outcome
import Meteo.Station.Discovery

namespace Meteo

set_option autoImplicit false

namespace Discovery

/-- A part of the stations is a variable of the dataset along their dimension alone. -/
theorem stationVariable?_spec {ds : Dataset} {dim standardName : String}
    {names units : List String} {e : String × Variable}
    (found : stationVariable? ds dim standardName names units = some e) :
    e ∈ ds.vars.entries ∧ e.2.dims = [dim] := by
  have candidate : e ∈ ds.vars.entries.filter fun e => e.2.dims = [dim] := by
    simp only [stationVariable?, Option.orElse_eq_or, Option.or_eq_some_iff] at found
    rcases found with found | ⟨-, found | ⟨-, found⟩⟩ <;> exact List.mem_of_find?_eq_some found
  simpa using candidate

theorem timeVariable_mem {ds : Dataset} {e : String × Variable}
    (found : timeVariable ds = .ok e) : e ∈ ds.vars.entries := by
  rw [timeVariable] at found
  split at found
  · next e' first =>
    cases found
    simp only [Option.orElse_eq_or, Option.or_eq_some_iff] at first
    rcases first with first | ⟨-, first⟩ <;> exact List.mem_of_find?_eq_some first
  · cases found

/-- Cells run along the observations, or along the stations and the observations. -/
def AlongObservations (dims : List String) (dim obsDim : String) : Prop :=
  dims = [obsDim] ∨ dim ≠ obsDim ∧ (dims = [dim, obsDim] ∨ dims = [obsDim, dim])

theorem obsDimOf_spec {time : Variable} {dim obsDim : String}
    (found : obsDimOf time dim = .ok obsDim) : AlongObservations time.dims dim obsDim := by
  rw [obsDimOf] at found
  split at found
  · next d dims =>
    cases found
    exact .inl dims
  · next d e dims =>
    split at found
    · cases found
    · next apart =>
      rw [Bool.and_eq_true, decide_eq_true_eq, decide_eq_true_eq] at apart
      split at found
      · next first =>
        cases found
        exact .inr ⟨fun same => apart ⟨first, same.symm⟩, .inl (first ▸ dims)⟩
      · next other =>
        split at found
        · next second =>
          cases found
          exact .inr ⟨fun same => other same.symm, .inr (second ▸ dims)⟩
        · cases found
  · cases found

/-- Times along the observations have these for their dimension, if it is not that of the
stations. -/
theorem obsDimOf_of_along {time : Variable} {dim obsDim : String} (apart : dim ≠ obsDim)
    (along : AlongObservations time.dims dim obsDim) : obsDimOf time dim = .ok obsDim := by
  rw [obsDimOf]
  rcases along with dims | ⟨-, dims | dims⟩
  · rw [dims]
  · simp [dims, apart.symm]
  · simp [dims, apart.symm]

theorem identity?_mem {ds : Dataset} {e : String × Variable} (found : identity? ds = some e) :
    e ∈ ds.vars.entries :=
  List.mem_of_find?_eq_some found

/-- A variable that identifies the stations runs along their dimension first, if it has any. -/
theorem head?_of_stationDimOf {ds : Dataset} {identity : Option (String × Variable)}
    {dim d : String} {e : String × Variable} {dims : List String}
    (found : stationDimOf ds identity = .ok dim) (identified : identity = some e)
    (along : e.2.dims = d :: dims) : d = dim := by
  rw [stationDimOf, identified, Option.bind_some, along] at found
  exact Except.ok.inj found

end Discovery

namespace StationParts

/-- The parts that describe the stations of a dataset are variables of it, each along the dimensions
it must have. -/
structure Describes (p : StationParts) (ds : Dataset) : Prop where
  lat : p.lat ∈ ds.vars.entries ∧ p.lat.2.dims = [p.stationDim]
  lon : p.lon ∈ ds.vars.entries ∧ p.lon.2.dims = [p.stationDim]
  alt {e : String × Variable} (found : p.alt = some e) :
    e ∈ ds.vars.entries ∧ e.2.dims = [p.stationDim]
  time : p.time ∈ ds.vars.entries ∧ Discovery.AlongObservations p.time.2.dims p.stationDim p.obsDim

open Convention Discovery in
/-- The parts of a dataset are what each step of their discovery comes to. -/
structure IsFound (ds : Dataset) (kind : Option FeatureKind) (p : StationParts) : Prop where
  kind : kindOf ds kind = .ok p.kind
  identity : identity? ds = p.identity
  stationDim : stationDimOf ds p.identity = .ok p.stationDim
  lat : stationVariable? ds p.stationDim "latitude" latNames latUnits = some p.lat
  lon : stationVariable? ds p.stationDim "longitude" lonNames lonUnits = some p.lon
  alt : stationVariable? ds p.stationDim "altitude" altNames [] = p.alt
  time : timeVariable ds = .ok p.time
  obsDim : obsDimOf p.time.2 p.stationDim = .ok p.obsDim
  isTime : p.time.2.cells.isTime

theorem find_eq_ok_iff {ds : Dataset} {kind : Option FeatureKind} {p : StationParts} :
    find ds kind = .ok p ↔ IsFound ds kind p := by
  rw [find]
  constructor
  · intro found
    obtain ⟨k, foundKind, found⟩ := Outcome.bind_eq_ok.1 found
    obtain ⟨dim, foundDim, found⟩ := Outcome.bind_eq_ok.1 found
    dsimp only at found
    split at found
    · next lat lon foundLat foundLon =>
      obtain ⟨time, foundTime, found⟩ := Outcome.bind_eq_ok.1 found
      obtain ⟨obsDim, foundObs, found⟩ := Outcome.bind_eq_ok.1 found
      split at found
      · next isTime =>
        cases found
        exact ⟨foundKind, rfl, foundDim, foundLat, foundLon, rfl, foundTime, foundObs, isTime⟩
      · cases found
    · cases found
  · intro found
    dsimp only [bind, Except.bind]
    simp only [found.kind, found.identity, found.stationDim, found.lat, found.lon, found.alt,
      found.time, found.obsDim, found.isTime, if_true]
    rfl

theorem describes_of_find {ds : Dataset} {kind : Option FeatureKind} {p : StationParts}
    (found : find ds kind = .ok p) : p.Describes ds := by
  have found := find_eq_ok_iff.1 found
  exact {
    lat := Discovery.stationVariable?_spec found.lat
    lon := Discovery.stationVariable?_spec found.lon
    alt := fun foundAlt => Discovery.stationVariable?_spec (found.alt.trans foundAlt)
    time := ⟨Discovery.timeVariable_mem found.time, Discovery.obsDimOf_spec found.obsDim⟩ }

end StationParts

end Meteo
