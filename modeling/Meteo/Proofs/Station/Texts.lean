/-
# Meteo.Proofs.Station.Texts -- observed texts that are stored as bytes

Rows of bytes stand in cells of fixed length or among arbitrary values.  Names of stations are
the same from either, but observed values are not: in cells of fixed length they stay bytes,
and among arbitrary values they are read as texts (`exists_bytes_iff`).

So with a variable of bytes kept as arbitrary values a collection is the same except for the
values of this variable, which are texts then (`yields_boxing`); it is the same as a whole if
and only if no observation has such a value.  The claim that bytes are read alike from both is
refuted by a single observation (`not_readsAlike`).
-/
import Meteo.Cells.Store
import Meteo.Proofs.Cells
import Meteo.Proofs.Station.Storage

namespace Meteo

set_option autoImplicit false

/-! ## Where bytes stand -/

/-- Whether a value is bytes. -/
def Value.isBytes : Value → Bool
  | bytes _ => true
  | _ => false

theorem Value.isBytes_iff {v : Value} : v.isBytes ↔ ∃ bs, v = bytes bs := by
  constructor
  · intro same
    cases v with
    | bytes bs => exact ⟨bs, rfl⟩
    | _ => cases same
  · rintro ⟨bs, rfl⟩
    rfl

/-- Whether a cell holds bytes. -/
def Cell.isBytes : Cell → Bool
  | value v => v.isBytes
  | time _ => false

/-- Whether a cell may be one of a type, as far as bytes go: types of bytes have no other cells, and
but for arbitrary values no other type has such cells. -/
def CellType.admits (type : CellType) (c : Cell) : Bool :=
  match type with
  | bytes _ => c.isBytes
  | value => true
  | _ => !c.isBytes

/-- Bytes stand only where the type of the cells has them. -/
def Cells.Sound (c : Cells) : Prop := ∀ x ∈ c.all, c.type.admits x

instance (c : Cells) : Decidable c.Sound :=
  inferInstanceAs (Decidable (∀ x ∈ c.all, c.type.admits x))

namespace Cell

theorem isBytes_iff {c : Cell} : c.isBytes ↔ ∃ bs, c = value (.bytes bs) := by
  cases c with
  | time t =>
      constructor
      · intro bytes
        cases bytes
      · rintro ⟨bs, same⟩
        cases same
  | value v =>
      show v.isBytes ↔ _
      rw [Value.isBytes_iff]
      exact exists_congr fun bs => (value.injEq v _).symm.to_iff

theorem isBytes_storeWord {f : WordFormat} {v : Value} {c : Cell} (made : storeWord f v = .ok c) :
    c.isBytes = false := by
  have inRange (n : Int) (made : (if f.wrap n = n then .ok (value (.int n)) else
      .error .overflow : Except Fault Cell) = .ok c) : c.isBytes = false := by
    split at made
    · cases made
      rfl
    · cases made
  cases v with
  | int n => exact inRange n made
  | bool b => exact inRange _ made
  | float x =>
      unfold storeWord at made
      dsimp only at made
      split at made
      · cases made
      · cases made
      · exact inRange _ made
  | null | list | string | bytes => cases made

/-- A cell that is made of a value is one of its type. -/
theorem admits_of_store {type : CellType} {v : Value} {c : Cell} (made : store type v = .ok c) :
    type.admits c := by
  cases type with
  | float64 | float32 | time =>
      obtain ⟨x, -, rfl⟩ := Outcome.map_eq_ok.1 made
      rfl
  | signed bits | unsigned bits => exact congrArg (!·) (isBytes_storeWord made)
  | bytes n => cases v <;> cases made <;> rfl
  | bool | string => cases made; rfl
  | value => rfl

end Cell

/-- Cells that are made of values are sound. -/
theorem Cells.sound_of_ofGiven {typeName : String} {shape : List Nat} {values : List Value}
    {c : Cells} (made : Cells.ofGiven typeName shape (values.map .value) = .ok c) : c.Sound := by
  unfold Cells.ofGiven at made
  split at made
  · cases made
  · next type _ =>
    obtain ⟨xs, stored, made⟩ := Outcome.bind_eq_ok.1 made
    unfold Block.ofCells? at made
    by_cases count : xs.toArray.size = Block.count shape
    · rw [dif_pos count] at made
      cases made
      intro x member
      have listed : x ∈ xs := by simpa [Cells.all] using member
      obtain ⟨i, within, rfl⟩ := List.mem_iff_getElem.1 listed
      have steps := Outcome.forall₂_of_mapM stored
      have before : i < (values.map Time.Given.value).length := steps.length_eq ▸ within
      have own := steps.get before within
      simp only [List.get_eq_getElem, List.getElem_map] at own
      exact Cell.admits_of_store own
    · rw [dif_neg count] at made
      cases made

/-- The variable with its cells kept as arbitrary values. -/
def Variable.boxed (v : Variable) : Variable := { v with cells := { v.cells with type := .value } }

namespace Loading

/-! ## Bytes that are read -/

/-- A value, or the text that it stands for if it is bytes. -/
def textOf : Value → Value
  | .bytes bs => .string (bytesText bs)
  | v => v

/-- A value is read as bytes from cells of bytes only. -/
theorem exists_valueOf_eq_bytes {type : CellType} {c : Cell} (admits : type.admits c) :
    (∃ bs, valueOf type c = .bytes bs) ↔ ∃ n, type = .bytes n := by
  cases type with
  | bytes n =>
      obtain ⟨bs, rfl⟩ := Cell.isBytes_iff.1 admits
      exact ⟨fun _ => ⟨n, rfl⟩, fun _ => ⟨bs, rfl⟩⟩
  | value =>
      refine ⟨?_, nofun⟩
      rintro ⟨bs, read⟩
      cases c with
      | time t => cases t <;> cases read
      | value v => cases v <;> cases read
  | _ =>
      refine ⟨?_, nofun⟩
      rintro ⟨bs, read⟩
      cases c with
      | time t => cases t <;> cases read
      | value v =>
          cases v with
          | bytes bs' => cases admits
          | _ => cases read

theorem mem_of_storedCell? {ds : Dataset} {p : StationParts} {v : Variable} {i j : Nat} {c : Cell}
    (found : storedCell? ds p v i j = some c) : c ∈ v.cells.all := by
  unfold storedCell? at found
  split_ifs at found
  · exact Cells.mem_all found
  · exact Cells.mem_all found
  · exact Cells.mem_all found

/-- What is observed under a name is read from a cell of the variable of this name. -/
theorem IsObservation.exists_cell {ds : Dataset} {p : StationParts} {i j : Nat} {o : Observation}
    (own : IsObservation ds p i j o) {e : String × Value} (observed : e ∈ o.values.entries) :
    ∃ v, (e.1, v) ∈ ds.vars.entries ∧ ∃ c ∈ v.cells.all, e.2 = valueOf v.cells.type c := by
  obtain ⟨⟨name, v⟩, listed, rfl⟩ :=
    List.mem_map.1 (own.names.subset (List.mem_map_of_mem observed))
  obtain ⟨c, found, holds⟩ := own.values _ listed
  rw [Table.get?_of_mem observed] at holds
  exact ⟨v, List.mem_of_mem_filter (List.mem_of_mem_filter listed), c, mem_of_storedCell? found,
    reads_iff.1 holds.2⟩

/-- Every observed value of a loaded collection is read from a cell. -/
theorem exists_cell_of_accepted {ds : Dataset} (well : ds.WellFormed) {name : Option String}
    {kind : Option FeatureKind} {c : Collection}
    (accepted : (Collection.ofDataset ds name kind).result = .ok c) {s : Station}
    (station : s ∈ c.stations) {o : Observation} (observation : o ∈ s.observations)
    {e : String × Value} (observed : e ∈ o.values.entries) :
    ∃ v, (e.1, v) ∈ ds.vars.entries ∧ ∃ x ∈ v.cells.all, e.2 = valueOf v.cells.type x := by
  obtain ⟨p, found, loaded⟩ := stations_of_accepted accepted
  have parts := StationParts.describes_of_find found
  obtain ⟨-, -, own⟩ := stations_spec well parts loaded
  obtain ⟨i, here⟩ := List.mem_iff_getElem?.1 station
  obtain ⟨js, -, -, matched⟩ := (own i s here).observations
  obtain ⟨k, within, rfl⟩ := List.mem_iff_getElem.1 observation
  have before : k < js.length := matched.length_eq ▸ within
  exact (matched.get before within).exists_cell observed

/-! ## Cells of another type -/

/-- A variable has the cells of another one, and under its own type they are read as the same names
and times, and as values that `g` gives for those of the other. -/
structure ReadsAs (v v' : Variable) (g : Value → Value) : Prop where
  dims : v'.dims = v.dims
  attributes : v'.attributes = v.attributes
  block : v'.cells.block = v.cells.block
  isTime : v'.cells.isTime = v.cells.isTime
  names : namesIn v' = namesIn v
  values : ∀ c ∈ v.cells.all, valueOf v'.cells.type c = g (valueOf v.cells.type c)

theorem ReadsAs.refl (v : Variable) : ReadsAs v v id := ⟨rfl, rfl, rfl, rfl, rfl, fun _ _ => rfl⟩

/-- What is at indices is one of the cells. -/
theorem mem_of_get? {v : Variable} {index : List Nat} {c : Cell}
    (found : v.cells.block.get? index = some c) : c ∈ v.cells.all := by
  unfold Block.get? at found
  split at found
  · exact Cells.mem_all found
  · cases found

theorem mem_of_cellAt? {p : StationParts} {v : Variable} {i j : Nat} {c : Cell}
    (found : p.cellAt? v i j = some c) : c ∈ v.cells.all := by
  unfold StationParts.cellAt? at found
  split at found
  · exact mem_of_get? found
  · unfold Variable.cellAt? at found
    obtain ⟨is, -, here⟩ := Option.bind_eq_some_iff.1 found
    exact mem_of_get? here

theorem cellAt?_retyped {v v' : Variable} {g : Value → Value} (reads : ReadsAs v v' g)
    (p : StationParts) (i j : Nat) : p.cellAt? v' i j = p.cellAt? v i j := by
  unfold StationParts.cellAt? Variable.cellAt?
  rw [reads.dims, reads.block]

/-- What a cell reports is changed like its value. -/
theorem report_retyped {v v' : Variable} {g : String → Value → Value} {name : String}
    (reads : ReadsAs v v' (g name)) (p : StationParts) (i j : Nat) :
    (p.cellAt? v' i j).bind (reportOf name v'.cells.type) =
      ((p.cellAt? v i j).bind (reportOf name v.cells.type)).map fun e => (e.1, g e.1 e.2) := by
  rw [cellAt?_retyped reads]
  cases found : p.cellAt? v i j with
  | none => rfl
  | some c =>
      rw [Option.bind_some, Option.bind_some]
      unfold reportOf
      rw [reads.values c (mem_of_cellAt? found)]
      split <;> rfl

/-- Under another type a variable stands for itself. -/
theorem standsFor_of_readsAs {ds : Dataset} {kind : Option FeatureKind} {p : StationParts}
    (well : ds.WellFormed) (found : StationParts.find ds kind = .ok p) {e : String × Variable}
    (member : e ∈ ds.vars.entries) {v : Variable} {g : String → Value → Value}
    (reads : ReadsAs e.2 v (g e.1)) : StandsFor ds p id g e v where
  fit := by
    unfold Dataset.fits Variable.rank Cells.shape
    rw [reads.dims, reads.block]
    exact well e member
  dims _ present := reads.dims ▸ present
  attributes := reads.attributes
  isTime := reads.isTime
  naming _ := ⟨congrArg List.head? reads.dims, reads.names⟩
  place _ := ⟨reads.dims, reads.block⟩
  obsDim times := by
    have known := (StationParts.find_eq_ok_iff.1 found).obsDim
    rw [← times] at known
    unfold Discovery.obsDimOf at known ⊢
    rw [reads.dims]
    exact known
  free _ := reads.dims ▸ List.Perm.refl _
  uneven := isUneven_of_perm (reads.dims ▸ List.Perm.refl _)
  time _ i j _ _ := by
    rw [cellAt?_retyped reads]
    rfl
  report _ i j _ _ := report_retyped reads p i j

/-! ## The same bytes among arbitrary values -/

/-- The dataset with the variable of this name kept as arbitrary values. -/
def boxing (ds : Dataset) (w : String) : Dataset :=
  ds.revise (Dataset.among (· = w) Variable.boxed)

/-- Bytes among arbitrary values are read as texts, and names are read alike. -/
theorem readsAs_boxed {v : Variable} {n : Nat} (type : v.cells.type = .bytes n)
    (sound : v.cells.Sound) : ReadsAs v v.boxed textOf := by
  have holds (x : Cell) (member : x ∈ v.cells.all) : ∃ bs, x = .value (.bytes bs) := by
    have admits := sound x member
    rw [type] at admits
    exact Cell.isBytes_iff.1 admits
  refine ⟨rfl, rfl, rfl, ?_, ?_, fun x member => ?_⟩
  · unfold Cells.isTime
    rw [type]
    rfl
  · have cell : v.cells.all.map (nameOf v.boxed.cells.type) =
        v.cells.all.map (nameOf v.cells.type) := by
      refine List.map_congr_left fun x member => ?_
      obtain ⟨bs, rfl⟩ := holds x member
      rfl
    have row (i : Nat) : v.boxed.cells.rowText i = v.cells.rowText i := by
      unfold Cells.rowText
      rw [type]
      rfl
    unfold namesIn
    rw [show v.boxed.cells.shape = v.cells.shape from rfl]
    rcases v.cells.shape with _ | ⟨n, _ | ⟨m, rest⟩⟩
    · rfl
    · exact congrArg Except.ok cell
    · simp only [row]
  · obtain ⟨bs, rfl⟩ := holds x member
    rw [type]
    rfl

/-- Reads what is bytes under the name `w` as text. -/
def textUnder (w name : String) : Value → Value := if name = w then textOf else id

/-- The collection with what is bytes under a name read as text. -/
def withTexts (c : Collection) (w : String) : Collection := c.revise (textUnder w)

theorem revises_boxing {ds : Dataset} {kind : Option FeatureKind} {p : StationParts}
    (well : ds.WellFormed) (found : StationParts.find ds kind = .ok p)
    (sound : ∀ e ∈ ds.vars.entries, e.2.cells.Sound) {w : String} {v : Variable} {n : Nat}
    (read : ds.vars.get? w = some v) (type : v.cells.type = .bytes n) :
    Revises ds p id (Dataset.among (· = w) Variable.boxed) (textUnder w) := by
  intro e member
  refine standsFor_of_readsAs well found member ?_
  unfold Dataset.among textUnder
  by_cases on : e.1 = w
  · obtain rfl : e.2 = v := Option.some.inj ((Table.get?_of_mem member).symm.trans (on ▸ read))
    rw [if_pos (decide_eq_true on), if_pos on]
    exact readsAs_boxed type (sound e member)
  · rw [if_neg (by simpa using on), if_neg on]
    exact ReadsAs.refl e.2

/-! ## Collections of bytes -/

section Loaded

variable {ds : Dataset} {name : Option String} {kind : Option FeatureKind} {c : Collection}
  (well : ds.WellFormed) (sound : ∀ e ∈ ds.vars.entries, e.2.cells.Sound)
  (accepted : (Collection.ofDataset ds name kind).result = .ok c)

include well sound accepted

/-- An observed value is bytes if and only if its variable is stored in cells of bytes. -/
theorem exists_bytes_iff {s : Station} (station : s ∈ c.stations) {o : Observation}
    (observation : o ∈ s.observations) {e : String × Value} (observed : e ∈ o.values.entries) :
    (∃ bs, e.2 = .bytes bs) ↔ ∃ v n, ds.vars.get? e.1 = some v ∧ v.cells.type = .bytes n := by
  obtain ⟨v, member, x, cell, value⟩ :=
    exists_cell_of_accepted well accepted station observation observed
  rw [value, exists_valueOf_eq_bytes (sound _ member x cell), Table.get?_of_mem member]
  constructor
  · rintro ⟨n, type⟩
    exact ⟨v, n, rfl, type⟩
  · rintro ⟨v', n, same, type⟩
    exact ⟨n, Option.some.inj same ▸ type⟩

/-- With a variable of bytes kept as arbitrary values its values are texts. -/
theorem yields_withTexts {w : String} {v : Variable} {n : Nat} (read : ds.vars.get? w = some v)
    (type : v.cells.type = .bytes n) : Yields (boxing ds w) name kind (withTexts c w) := by
  obtain ⟨p, found, -⟩ := stations_of_accepted accepted
  have same := revises_boxing well found sound read type
  refine ⟨Dataset.wellFormed_revise well (refits_of_revises same), ?_⟩
  unfold boxing
  rw [result_revised well found same (.inl fun _ => rfl), accepted]
  rfl

end Loaded

/-- Where all values of a name are bytes, reading them as texts changes each of them. -/
theorem withTexts_eq_self_iff {c : Collection} {w : String}
    (bytes : ∀ s ∈ c.stations, ∀ o ∈ s.observations, ∀ e ∈ o.values.entries, e.1 = w →
      ∃ bs, e.2 = .bytes bs) :
    withTexts c w = c ↔ ∀ s ∈ c.stations, ∀ o ∈ s.observations, w ∉ o.values.names := by
  unfold withTexts
  rw [Collection.revise_eq_self]
  refine forall₂_congr fun s station => forall₂_congr fun o observation => ?_
  constructor
  · intro unchanged listed
    obtain ⟨e, observed, name⟩ := List.mem_map.1 listed
    obtain ⟨bs, value⟩ := bytes s station o observation e observed name
    have kept := unchanged e observed
    unfold textUnder at kept
    rw [if_pos name, value] at kept
    cases kept
  · intro absent e observed
    have other : e.1 ≠ w := fun same => absent (same ▸ List.mem_map_of_mem observed)
    unfold textUnder
    rw [if_neg other]
    rfl

/-- Observed values are bytes if and only if their variable is stored in cells of bytes.  With such
a variable kept as arbitrary values the collection is the same but for these values, which are texts
then; it is the same as a whole if and only if no observation has any of them. -/
theorem yields_boxing {vars : List Variable} {attributes : Table Value} {declared : List String}
    {source : Option String} {ds : Dataset}
    (stored : Dataset.ofVariables vars attributes declared source = .ok ds)
    (sound : ∀ v ∈ vars, v.cells.Sound) {name : Option String} {kind : Option FeatureKind}
    {c : Collection} (accepted : (Collection.ofDataset ds name kind).result = .ok c) :
    (∀ s ∈ c.stations, ∀ o ∈ s.observations, ∀ e ∈ o.values.entries,
      (∃ bs, e.2 = .bytes bs) ↔ ∃ v n, ds.vars.get? e.1 = some v ∧ v.cells.type = .bytes n) ∧
    ∀ w v n, ds.vars.get? w = some v → v.cells.type = .bytes n →
      Yields (boxing ds w) name kind (withTexts c w) ∧
      ((Collection.ofDataset (boxing ds w) name kind).result = .ok c ↔
        ∀ s ∈ c.stations, ∀ o ∈ s.observations, w ∉ o.values.names) := by
  have well := Dataset.wellFormed_of_ofVariables stored
  have sound : ∀ e ∈ ds.vars.entries, e.2.cells.Sound := Dataset.forall_of_ofVariables stored sound
  refine ⟨fun s station o observation e observed =>
    exists_bytes_iff well sound accepted station observation observed, fun w v n read type => ?_⟩
  have yields := yields_withTexts well sound accepted read type
  refine ⟨yields, ?_⟩
  rw [yields.2, Except.ok.injEq]
  refine withTexts_eq_self_iff fun s station o observation e observed name => ?_
  rw [exists_bytes_iff well sound accepted station observation observed, name]
  exact ⟨v, n, read, type⟩

/-- A station with one observation, which has a remark in cells of bytes. -/
def remarked : List Variable :=
  [{ name := some "lat", dims := ["station"], attributes := .empty
     cells := ⟨.float64, ⟨[1], #v[.value (.float 47.5)]⟩⟩ },
    { name := some "lon", dims := ["station"], attributes := .empty
      cells := ⟨.float64, ⟨[1], #v[.value (.float 8.25)]⟩⟩ },
    { name := some "time", dims := ["obs"], attributes := .empty
      cells := ⟨.time, ⟨[1], #v[.time (.instant ⟨1704067200000000000⟩)]⟩⟩ },
    { name := some "remark", dims := ["station", "obs"], attributes := .empty
      cells := ⟨.bytes 3, ⟨[1, 1], #v[.value (.bytes [102, 111, 103])]⟩⟩ }]

/-- The observed values of all stations by name, and whether they are bytes. -/
def bytesIn (c : Collection) : List (String × Bool) :=
  c.stations.flatMap fun s => s.observations.flatMap fun o =>
    o.values.entries.map fun e => (e.1, e.2.isBytes)

theorem yields_boxing_remarked :
    ∃ ds c, Dataset.ofVariables remarked .empty [] none = .ok ds ∧
      (∀ v ∈ remarked, v.cells.Sound) ∧ (Collection.ofDataset ds none none).result = .ok c ∧
      bytesIn c = [("remark", true)] ∧
      Yields (boxing ds "remark") none none (withTexts c "remark") := by
  obtain ⟨ds, stored, shown, type⟩ : ∃ ds, Dataset.ofVariables remarked .empty [] none = .ok ds ∧
      (Collection.ofDataset ds none none).result.toOption.map bytesIn = some [("remark", true)] ∧
      (ds.vars.get? "remark").map (fun v => v.cells.type) = some (.bytes 3) :=
    ⟨_, rfl, by decide +kernel, by decide +kernel⟩
  have sound : ∀ v ∈ remarked, v.cells.Sound := by decide +kernel
  obtain ⟨c, result, values⟩ := Option.map_eq_some_iff.1 shown
  obtain ⟨v, read, type⟩ := Option.map_eq_some_iff.1 type
  have accepted := Outcome.toOption_eq_some.1 result
  obtain ⟨-, boxed⟩ := yields_boxing stored sound accepted
  exact ⟨ds, c, stored, sound, accepted, values, (boxed "remark" v 3 read type).1⟩

/-- A variable of bytes may be kept as arbitrary values. -/
def BoxesFreely : Prop :=
  ∀ (vars : List Variable) (attributes : Table Value) (declared : List String)
    (source name : Option String) (kind : Option FeatureKind) (ds : Dataset) (c : Collection),
    Dataset.ofVariables vars attributes declared source = .ok ds →
    (∀ v ∈ vars, v.cells.Sound) → (Collection.ofDataset ds name kind).result = .ok c →
    ∀ w v n, ds.isCoordinate w = false → ds.vars.get? w = some v → v.cells.type = .bytes n →
      (Collection.ofDataset (boxing ds w) name kind).result = .ok c

/-- No observed value is bytes. -/
def ObservesTexts : Prop :=
  ∀ (vars : List Variable) (attributes : Table Value) (declared : List String)
    (source name : Option String) (kind : Option FeatureKind) (ds : Dataset) (c : Collection),
    Dataset.ofVariables vars attributes declared source = .ok ds →
    (∀ v ∈ vars, v.cells.Sound) → (Collection.ofDataset ds name kind).result = .ok c →
    ∀ s ∈ c.stations, ∀ o ∈ s.observations, ∀ e ∈ o.values.entries, ∀ bs, e.2 ≠ .bytes bs

theorem not_readsAlike : ¬ BoxesFreely ∧ ¬ ObservesTexts := by
  obtain ⟨ds, stored, shown, boxed, type, data⟩ :
      ∃ ds, Dataset.ofVariables remarked .empty [] none = .ok ds ∧
        (Collection.ofDataset ds none none).result.toOption.map bytesIn =
          some [("remark", true)] ∧
        (Collection.ofDataset (boxing ds "remark") none none).result.toOption.map bytesIn =
          some [("remark", false)] ∧
        (ds.vars.get? "remark").map (fun v => v.cells.type) = some (.bytes 3) ∧
        ds.isCoordinate "remark" = false :=
    ⟨_, rfl, by decide +kernel, by decide +kernel, by decide +kernel, by decide +kernel⟩
  have sound : ∀ v ∈ remarked, v.cells.Sound := by decide +kernel
  obtain ⟨c, result, values⟩ := Option.map_eq_some_iff.1 shown
  obtain ⟨v, read, type⟩ := Option.map_eq_some_iff.1 type
  have accepted := Outcome.toOption_eq_some.1 result
  constructor
  · intro free
    have same := free _ _ _ _ _ _ ds c stored sound accepted "remark" v 3 data read type
    rw [same] at boxed
    have values' : bytesIn c = [("remark", false)] := Option.some.inj boxed
    rw [values] at values'
    exact absurd values' (by decide)
  · intro texts
    have member : ("remark", true) ∈ bytesIn c := by
      rw [values]
      exact List.mem_singleton_self _
    obtain ⟨s, station, member⟩ := List.mem_flatMap.1 member
    obtain ⟨o, observation, member⟩ := List.mem_flatMap.1 member
    obtain ⟨e, observed, pair⟩ := List.mem_map.1 member
    have bytes : e.2.isBytes = true := congrArg Prod.snd pair
    obtain ⟨bs, value⟩ := Value.isBytes_iff.1 bytes
    exact texts _ _ _ _ _ _ ds c stored sound accepted s station o observation e observed bs value

end Loading

end Meteo
