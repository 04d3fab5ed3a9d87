/-
# Meteo.Proofs.Station.Names -- stations looked up by a list of names

Names are looked up in a table of the stations, one after the other, and a name that has
occurred is passed over.  What is found is what a search of the stations finds for each
of the distinct names (`Collection.pick_eq`), so of every name it is the earliest station
(`find?_eq_some_iff`), and no two stations found have the same name (`map_name_pick`).

The names that find nothing are those that no station bears (`unknown`).  A selection reports
how many there are by taking the number of stations found from the number of distinct
names, and no more is found than was asked for (`length_pick_add`).
-/
import Mathlib
import Meteo.Proofs.Station.Precedence

namespace Meteo

set_option autoImplicit false

/-- Names without repetitions. -/
theorem nodup_eraseDups (names : List String) : names.eraseDups.Nodup := by
  match names with
  | [] => exact .nil
  | name :: names =>
      rw [List.eraseDups_cons, List.nodup_cons]
      refine ⟨fun again => ?_, nodup_eraseDups _⟩
      simpa using (List.mem_filter.1 (List.mem_eraseDups.1 again)).2
termination_by names.length
decreasing_by exact Nat.lt_succ_of_le (List.length_filter_le _ _)

namespace Collection

variable {c : Collection} {name : String} {s : Station}

/-- A station in front of which no station has its name. -/
def IsEarliest (c : Collection) (s : Station) : Prop :=
  ∃ before behind, c.stations = before ++ s :: behind ∧ ∀ t ∈ before, t.name ≠ s.name

/-- The names among these that no station bears. -/
def unknown (c : Collection) (names : List String) : Finset String :=
  names.toFinset \ (c.stations.map Station.name).toFinset

/-- The earliest station of a name is found under it. -/
theorem find?_eq_some_iff : c.find? name = some s ↔ s.name = name ∧ c.IsEarliest s := by
  unfold find? IsEarliest
  simp only [List.find?_eq_some_iff_append, beq_iff_eq, Bool.not_eq_true', beq_eq_false_iff_ne]
  exact and_congr_right fun same => by rw [same]

/-- A name that no station bears finds nothing, and every other name finds a station. -/
theorem isSome_find? : (c.find? name).isSome ↔ name ∈ c.stations.map Station.name := by
  rw [find?, List.find?_isSome, List.mem_map]
  simp only [beq_iff_eq]

theorem mem_pick_iff {names : List String} :
    s ∈ c.pick names ↔ s.name ∈ names ∧ c.IsEarliest s := by
  rw [pick_eq, List.mem_filterMap]
  simp only [find?_eq_some_iff, List.mem_eraseDups]
  constructor
  · rintro ⟨name, listed, rfl, earliest⟩
    exact ⟨listed, earliest⟩
  · rintro ⟨listed, earliest⟩
    exact ⟨s.name, listed, rfl, earliest⟩

/-- The names of the stations found are the distinct names that stations bear. -/
theorem map_name_pick (c : Collection) (names : List String) :
    (c.pick names).map Station.name = names.eraseDups.filter fun name => (c.find? name).isSome := by
  rw [pick_eq]
  induction names.eraseDups with
  | nil => rfl
  | cons name names ih =>
      rw [List.filterMap_cons, List.filter_cons]
      cases found : c.find? name with
      | none => exact ih
      | some s =>
          rw [List.map_cons, ih, (find?_eq_some_iff.1 found).1]
          rfl

theorem nodup_name_pick (c : Collection) (names : List String) :
    ((c.pick names).map Station.name).Nodup := by
  rw [map_name_pick]
  exact (nodup_eraseDups names).filter _

/-- Every distinct name either finds one station or is unknown. -/
theorem length_pick_add (c : Collection) (names : List String) :
    (c.pick names).length + (c.unknown names).card = names.toFinset.card := by
  have borne : ((c.pick names).map Station.name).toFinset =
      names.toFinset ∩ (c.stations.map Station.name).toFinset := by
    ext name
    rw [map_name_pick, List.mem_toFinset, List.mem_filter, isSome_find?, List.mem_eraseDups,
      Finset.mem_inter, List.mem_toFinset, List.mem_toFinset]
  calc (c.pick names).length + (c.unknown names).card
      = ((c.pick names).map Station.name).toFinset.card + (c.unknown names).card := by
        rw [List.toFinset_card_of_nodup (nodup_name_pick c names), List.length_map]
    _ = names.toFinset.card := by
        rw [borne, unknown, Finset.card_inter_add_card_sdiff]

end Collection

namespace Selection

variable {c : Collection} {r : Request} {names : List String}

/-- What is reported of names that have no station. -/
def notFound (c : Collection) (count : Nat) : List Log.Entry :=
  if count = 0 then []
  else [⟨Log.Level.debug, source, "Collection " ++ c.name ++ ": " ++ Decimal.digitText count ++
    " requested stations not found"⟩]

/-- The number of distinct names less the number of stations found is that of the unknown
names. -/
theorem missingCount_pick (c : Collection) (names : List String) :
    missingCount names (c.pick names) = (c.unknown names).card := by
  have distinct : names.eraseDups.length = names.toFinset.card := by
    rw [← List.toFinset_card_of_nodup (nodup_eraseDups names)]
    congr 1
    ext name
    rw [List.mem_toFinset, List.mem_toFinset, List.mem_eraseDups]
  have parts := c.length_pick_add names
  rw [missingCount, distinct]
  omega

theorem spatial_of_names (given : r.stations = some names)
    (listed : names ≠ [Request.allStations]) :
    spatial c r = ⟨notFound c (c.unknown names).card, .ok (c.pick names)⟩ := by
  have some : ¬ r.isAllStations := fun all => listed ((isAllStations_iff given).1 all)
  rw [spatial, given]
  dsimp only
  rw [if_neg some, missingCount_pick, notFound]
  simp only [ne_eq, Int.natCast_eq_zero, ite_not]
  split <;> rfl

/-- The stations found for a list of names are those that a search finds for each distinct name, in
the order of the names: of every name the earliest station.  A selection by names reports how many
distinct names no station bears. -/
theorem spatial_by_names (c : Collection) (names : List String) :
    c.pick names = names.eraseDups.filterMap c.find? ∧
    ((c.pick names).map Station.name).Nodup ∧
    (∀ s, s ∈ c.pick names ↔ s.name ∈ names ∧ c.IsEarliest s) ∧
    (names.toFinset.card : ℤ) - (c.pick names).length = (c.unknown names).card ∧
    ∀ r : Request, r.stations = some names → names ≠ [Request.allStations] →
      spatial c r = ⟨notFound c (c.unknown names).card, .ok (c.pick names)⟩ ∧
      (spatial c r).entries <+: (ofCollection c r).entries := by
  have parts := c.length_pick_add names
  refine ⟨c.pick_eq names, c.nodup_name_pick names, fun s => Collection.mem_pick_iff, by omega,
    fun r given listed => ⟨spatial_of_names given listed, ?_⟩⟩
  exact Logged.entries_prefix_bind _ _

/-- Two stations with the same name and one between them. -/
def shared : Collection where
  name := "metar"
  stations := [{ name := "KDEN", lat := 39.75, lon := -104.5 },
    { name := "KBOS", lat := 42.25, lon := -71.0 }, { name := "KDEN", lat := 0.0, lon := 0.5 }]

/-- One name that no station bears, and one twice. -/
def asked : List String := ["KBOS", "NOPE", "KDEN", "KBOS"]

theorem spatial_by_names_shared :
    ({ stations := some asked } : Request).stations = some asked ∧
      asked ≠ [Request.allStations] ∧
      shared.pick asked = asked.eraseDups.filterMap shared.find? ∧
      (asked.toFinset.card : ℤ) - (shared.pick asked).length = (shared.unknown asked).card ∧
      (shared.unknown asked).card = 1 ∧
      spatial shared { stations := some asked } =
        ⟨notFound shared (shared.unknown asked).card, .ok (shared.pick asked)⟩ := by
  have listed : asked ≠ [Request.allStations] := by decide
  obtain ⟨found, -, -, missing, reported⟩ := spatial_by_names shared asked
  exact ⟨rfl, listed, found, missing, by decide, (reported { stations := some asked } rfl listed).1⟩

end Selection

end Meteo
