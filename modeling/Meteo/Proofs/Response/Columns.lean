/-
# Meteo.Proofs.Response.Columns -- every reported value under its own column

Unless a request names variables, the columns of a CSV response are those that the
collections of the requested kind declare, each where it appears first
(`FirstAppearances`).  They are fixed before any observation is looked at, while
observations have values of some of the variables only, and different ones.

If the observations of every collection have values of declared variables only
(`Declared`), no value is left out: whatever collection a row comes from
(`mem_handed`), its variables are among the columns, and the record that is read back
for it has each value under the column of its variable (`respond_csv_columns`).
-/
import Meteo.Proofs.Response.Content
import Meteo.Proofs.Station.Selection

namespace Meteo.Response

set_option autoImplicit false

/-! ## First appearances -/

/-- The names of a list without repetitions, in the order in which they appear there first. -/
structure FirstAppearances (source names : List String) : Prop where
  mem_iff : ∀ name, name ∈ names ↔ name ∈ source
  inOrder : names.Pairwise fun u v => source.idxOf u < source.idxOf v

/-- Leaving names out does not change the order of the others. -/
theorem idxOf_lt_of_filter {keep : String → Bool} {names : List String} {u v : String}
    (kept : keep u) (kept' : keep v)
    (first : (names.filter keep).idxOf u < (names.filter keep).idxOf v) :
    names.idxOf u < names.idxOf v := by
  induction names with
  | nil => exact first
  | cons name names ih =>
      by_cases here : keep name
      · rw [List.filter_cons_of_pos here] at first
        by_cases isSecond : name = v
        · subst isSecond
          rw [List.idxOf_cons_self] at first
          exact absurd first (Nat.not_lt_zero _)
        · rw [List.idxOf_cons_ne _ isSecond] at first ⊢
          by_cases isFirst : name = u
          · subst isFirst
            rw [List.idxOf_cons_self]
            exact Nat.succ_pos _
          · rw [List.idxOf_cons_ne _ isFirst] at first ⊢
            exact Nat.succ_lt_succ (ih (Nat.lt_of_succ_lt_succ first))
      · rw [List.filter_cons_of_neg here] at first
        have notFirst : name ≠ u := fun same => here (same ▸ kept)
        have notSecond : name ≠ v := fun same => here (same ▸ kept')
        rw [List.idxOf_cons_ne _ notFirst, List.idxOf_cons_ne _ notSecond]
        exact Nat.succ_lt_succ (ih first)

theorem firstAppearances_eraseDups (names : List String) :
    FirstAppearances names names.eraseDups := by
  refine ⟨fun name => List.mem_eraseDups, ?_⟩
  match names with
  | [] => exact .nil
  | name :: names =>
      -- A name behind the first one differs from it, and was in order among the other names.
      have later := (firstAppearances_eraseDups (names.filter fun n => !n == name)).inOrder
      have other {v : String} (member : v ∈ (names.filter fun n => !n == name).eraseDups) :
          (!v == name) = true := (List.mem_filter.1 (List.mem_eraseDups.1 member)).2
      have behind {v : String} (member : v ∈ (names.filter fun n => !n == name).eraseDups) :
          (name :: names).idxOf v = names.idxOf v + 1 := by
        have apart : v ≠ name := by simpa using other member
        exact List.idxOf_cons_ne _ apart.symm
      rw [List.eraseDups_cons, List.pairwise_cons]
      constructor
      · intro v member
        rw [behind member, List.idxOf_cons_self]
        exact Nat.succ_pos _
      · refine later.imp_of_mem fun member member' first => ?_
        rw [behind member, behind member']
        exact Nat.succ_lt_succ (idxOf_lt_of_filter (other member) (other member') first)
termination_by names.length
decreasing_by exact Nat.lt_succ_of_le (List.length_filter_le _ _)

/-! ## Declared variables -/

/-- Observations have values only of variables that their collection declares. -/
def Declared (cs : List Collection) : Prop :=
  ∀ c ∈ cs, ∀ s ∈ c.stations, ∀ o ∈ s.observations, ∀ name ∈ o.values.names, name ∈ c.vars.names

/-- The variables that the collections of the requested kind declare, one collection after the
other. -/
def declaredNames (cs : List Collection) (r : Request) : List String :=
  (cs.filter fun c => c.kind = r.kind).flatMap fun c => c.vars.names

section Handed

variable {cs : List Collection} {r : Request} {ps : List (Station × Observation)}

/-- An observation that is wanted was observed at a station of a collection of the requested
kind. -/
theorem mem_handed (wanted : handed cs r = .ok ps) {p : Station × Observation} (member : p ∈ ps) :
    ∃ c ∈ cs, c.kind = r.kind ∧ ∃ s ∈ c.stations, p.2 ∈ s.observations := by
  rw [handed] at wanted
  obtain ⟨ss, selected, rest⟩ := Outcome.bind_eq_ok.1 wanted
  obtain ⟨qs, paired, made⟩ := Outcome.bind_eq_ok.1 rest
  split at made
  · cases made
  cases made
  rw [Times.pairsOf] at paired
  split at paired
  · cases paired
    cases member
  · cases readable : Times.ofRequest r with
    | error e =>
        rw [readable] at paired
        cases paired
    | ok t =>
        rw [readable] at paired
        cases paired
        obtain ⟨s, station, seen⟩ := List.mem_flatMap.1 member
        obtain ⟨o, observed, rfl⟩ := List.mem_map.1 seen
        obtain ⟨c, listed, kind, held⟩ := mem_select selected station
        exact ⟨c, listed, kind, s, held, Times.mem_of_mem_seen observed⟩

theorem mem_declaredNames (declared : Declared cs) (wanted : handed cs r = .ok ps)
    {p : Station × Observation} (member : p ∈ ps) {name : String}
    (observed : name ∈ p.2.values.names) : name ∈ declaredNames cs r := by
  obtain ⟨c, listed, kind, s, station, observation⟩ := mem_handed wanted member
  refine List.mem_flatMap.2 ⟨c, ?_, declared c listed s station _ observation name observed⟩
  exact List.mem_filter.2 ⟨listed, decide_eq_true kind⟩

theorem variablesFor_of_unnamed (unnamed : r.vars = none) :
    variablesFor cs r =
      if (declaredNames cs r).isEmpty then none else some (declaredNames cs r).eraseDups := by
  rw [variablesFor, unnamed]
  rfl

/-- The columns are the declared variables. -/
theorem firstAppearances_columnsOf (declared : Declared cs) (unnamed : r.vars = none)
    {p : Station × Observation} {ps : List (Station × Observation)}
    (wanted : handed cs r = .ok (p :: ps)) :
    FirstAppearances (declaredNames cs r) (columnsOf cs r p.2) := by
  rw [columnsOf, variablesFor_of_unnamed unnamed]
  by_cases undeclared : declaredNames cs r = []
  · -- The columns fall back on the first observation, which has nothing to show either.
    have valueless : p.2.values.names = [] := by
      apply List.eq_nil_iff_forall_not_mem.2
      intro name observed
      have named := mem_declaredNames declared wanted List.mem_cons_self observed
      rw [undeclared] at named
      cases named
    rw [if_pos (List.isEmpty_iff.2 undeclared), Option.getD_none, valueless, undeclared]
    exact ⟨fun name => Iff.rfl, .nil⟩
  · rw [if_neg (mt List.isEmpty_iff.1 undeclared), Option.getD_some]
    exact firstAppearances_eraseDups _

end Handed

/-! ## Records -/

/-- A record says of a row when and where it was observed, and under each column the value of its
variable, of which there is a column for every value. -/
structure Tells (columns : List String) (x : Row) (record : List String) : Prop where
  length : record.length = 4 + columns.length
  place : record.take 4 = [x.observation.time.isoText, x.name, Writer.coordinateText x.lat,
    Writer.coordinateText x.lon]
  value : ∀ j name, columns[j]? = some name → record[4 + j]? = some (reported x.observation name)
  complete : ∀ name ∈ x.observation.values.names, name ∈ columns

/-- Behind the four columns of time and place the others follow in order. -/
theorem getElem?_behind_place {front : List String} (four : front.length = 4)
    {columns : List String} (f : String → String) {j : Nat} {name : String}
    (column : columns[j]? = some name) : (front ++ columns.map f)[4 + j]? = some (f name) := by
  rw [List.getElem?_append_right (by omega), four, Nat.add_sub_cancel_left, List.getElem?_map,
    column]
  rfl

theorem tells_fields {columns : List String} {x : Row}
    (complete : ∀ name ∈ x.observation.values.names, name ∈ columns) :
    Tells columns x (x.fields columns) := by
  refine ⟨?_, rfl, fun j name column => getElem?_behind_place rfl _ column, complete⟩
  rw [Row.fields, List.length_append, List.length_map]
  rfl

/-- Without variables in the request a CSV response has the declared variables as its columns, and
a record for every row that has each of its values under the column of its variable. -/
theorem respond_csv_columns {cs : List Collection} {r : Request} {n : Nat}
    (declared : Declared cs) (unnamed : r.vars = none)
    (made : (respond cs r "csv").outcome.result = .ok n) :
    let w := (respond cs r "csv").writer
    FirstAppearances (declaredNames cs r) w.columns ∧
      (∀ j name, w.columns[j]? = some name →
        w.headerFields[4 + j]? = some (Writer.label name (w.unit? name))) ∧
      ∃ body, w.out = Csv.joined w.headerFields ++ body ∧ w.rows.length = n ∧
        List.Forall₂ (Tells w.columns) w.rows (Csv.records body) := by
  intro w
  have supported : Format.csv ≠ .unspecified := by decide
  obtain ⟨p, ps, wanted, counted, all⟩ := handed_of_result supported made
  obtain ⟨columns, body, out, records⟩ := respond_csv_of_handed wanted all
  have rows : w.rows = rowsOf (p :: ps) := rows_of_handed supported wanted all
  have ordered : FirstAppearances (declaredNames cs r) w.columns := by
    rw [columns]
    exact firstAppearances_columnsOf declared unnamed wanted
  refine ⟨ordered, fun j name column => getElem?_behind_place rfl _ column, body, out, ?_, ?_⟩
  · rw [rows, rowsOf, List.length_map, counted]
  · rw [rows, records, List.forall₂_map_right_iff, List.forall₂_same]
    intro x member
    obtain ⟨p', listed, rfl⟩ := List.mem_map.1 member
    apply tells_fields
    intro name observed
    exact (ordered.mem_iff name).2 (mem_declaredNames declared wanted listed observed)

/-- Two collections that declare different variables, and stations that have observed some of
them. -/
def sparseCollections : List Collection :=
  [{ name := "synop"
     stations := [{ name := "A", lat := 1.0, lon := 2.0, observations := [
       ⟨⟨10⟩, .ofList [("wind", .int 3)]⟩, ⟨⟨20⟩, .ofList [("temp", .null), ("wind", .int 5)]⟩] }]
     vars := .ofList [("temp", some "K"), ("wind", none)] },
   { name := "buoys"
     stations := [{ name := "B", lat := 3.0, lon := 4.0, observations := [
       ⟨⟨10⟩, .ofList [("wave", .int 2), ("temp", .int 280)]⟩] }]
     vars := .ofList [("wave", some "m"), ("temp", some "degC")] }]

theorem respond_csv_columns_sparse :
    Declared sparseCollections ∧ ({} : Request).vars = none ∧
      (respond sparseCollections {} "csv").outcome.result = .ok 3 ∧
      let w := (respond sparseCollections {} "csv").writer
      FirstAppearances ["temp", "wind", "wave", "temp"] w.columns ∧
        (∀ j name, w.columns[j]? = some name →
          w.headerFields[4 + j]? = some (Writer.label name (w.unit? name))) ∧
        ∃ body, w.out = Csv.joined w.headerFields ++ body ∧ w.rows.length = 3 ∧
          List.Forall₂ (Tells w.columns) w.rows (Csv.records body) := by
  have declared : Declared sparseCollections := by
    unfold Declared
    decide
  have made : (respond sparseCollections {} "csv").outcome.result = .ok 3 := by rfl
  exact ⟨declared, rfl, made, respond_csv_columns declared rfl made⟩

end Meteo.Response
