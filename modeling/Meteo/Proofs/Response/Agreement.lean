/-
# Meteo.Proofs.Response.Agreement -- CSV and XML say the same

A response in CSV is written as it comes, one record for every observation; in XML a
tree is built and written at the end.  Both are made by the same calls, so they fail
alike, and have the same rows under the same columns.

`Agree` says what it means that the records and the elements of rows carry the same
data, with the texts of one standing in the other.  They differ where nothing was
observed (`Told`): every column has a field in CSV, but an element in XML only if the
observation has its variable, and a missing value is an empty field in CSV and `None`
in XML.
-/
import Meteo.Proofs.Response.Content

namespace Meteo.Response

set_option autoImplicit false

/-! ## The values of one observation -/

/-- Under columns, the fields and the elements for the values of an observation.  The units that an
element may have besides have no counterpart in a field. -/
inductive Told (o : Observation) : List String → List String → List Xml → Prop where
  | nil : Told o [] [] []
  | absent {name : String} {names fields : List String} {elements : List Xml}
      (unobserved : o.values.get? name = none) (rest : Told o names fields elements) :
      Told o (name :: names) ("" :: fields) elements
  | missing {name : String} {names fields : List String} {elements : List Xml}
      {units : List (String × String)} (null : o.values.get? name = some .null)
      (rest : Told o names fields elements) :
      Told o (name :: names) ("" :: fields)
        (.element "data" (("name", name) :: units) "None" [] :: elements)
  | value {name : String} {names fields : List String} {elements : List Xml}
      {units : List (String × String)} {v : Value} (observed : o.values.get? name = some v)
      (given : v ≠ .null) (rest : Told o names fields elements) :
      Told o (name :: names) (v.shown :: fields)
        (.element "data" (("name", name) :: units) v.shown [] :: elements)

theorem told_dataElements (w : Writer) (o : Observation) (names : List String) :
    Told o names (names.map (reported o)) (Writer.dataElements { w with columns := names } o) := by
  induction names with
  | nil => exact .nil
  | cons name names ih =>
      rw [List.map_cons, Writer.dataElements, List.filterMap_cons]
      cases observed : o.values.get? name with
      | none =>
          rw [show reported o name = "" by rw [reported, observed]]
          exact .absent observed ih
      | some v =>
          by_cases missing : v = .null
          · subst missing
            rw [show reported o name = "" by rw [reported, observed]]
            exact .missing observed ih
          · have shown : reported o name = v.shown := by
              rw [reported, observed]
              cases v with
              | null => exact absurd rfl missing
              | _ => rfl
            rw [shown]
            exact .value observed missing ih

/-! ## One row after the other -/

/-- Records and elements that carry the data of rows: the same time, station and place, and the
values under the columns. -/
inductive Agree (columns : List String) : List Row → List (List String) → List Xml → Prop where
  | nil : Agree columns [] [] []
  | cons {x : Row} {rows : List Row} {records : List (List String)} {features : List Xml}
      (time name lat lon : String) {altitude : List (String × String)} {fields : List String}
      {elements : List Xml} (told : Told x.observation columns fields elements)
      (rest : Agree columns rows records features) :
      Agree columns (x :: rows) ((time :: name :: lat :: lon :: fields) :: records)
        (.element "stationFeature" [("date", time)] ""
          (.element "station" ([("name", name), ("latitude", lat), ("longitude", lon)] ++ altitude)
            "" [] :: elements) :: features)

theorem agree_rowsOf (w : Writer) (ps : List (Station × Observation)) :
    Agree w.columns (rowsOf ps) ((rowsOf ps).map (Row.fields w.columns))
      (ps.map fun p => w.featureElement p.1 p.2) := by
  induction ps with
  | nil => exact .nil
  | cons p ps ih => exact .cons _ _ _ _ (told_dataElements w p.2 w.columns) ih

/-- The responses to a request in CSV and in XML fail alike, or have the same number of the same
rows under the same columns, and then the records of the one carry the same data as the elements of
the other. -/
theorem respond_csv_agrees_xml (cs : List Collection) (r : Request) :
    let c := respond cs r "csv"
    let x := respond cs r "xml"
    match c.outcome.result with
    | .error e => x.outcome.result = .error e
    | .ok n =>
        x.outcome.result = .ok n ∧ c.writer.rows.length = n ∧ c.writer.rows = x.writer.rows ∧
          c.writer.columns = x.writer.columns ∧
          ∃ body features, c.writer.out = Csv.joined c.writer.headerFields ++ body ∧
            x.writer.out = Xml.document (.element "stationFeatureCollection" [] "" features) ∧
            Agree c.writer.columns c.writer.rows (Csv.records body) features := by
  intro c x
  have csv : Format.csv ≠ .unspecified := by decide
  have xml : Format.xml ≠ .unspecified := by decide
  have alike : x.outcome.result = c.outcome.result := by
    have columns : x.writer.columns = c.writer.columns :=
      (columns_deliver xml).trans (columns_deliver csv).symm
    refine (result_deliver xml).trans (Eq.trans ?_ (result_deliver csv).symm)
    exact congrArg (fun columns => handed cs r >>= fun ps =>
      (verdict columns ps).map fun _ => ps.length) columns
  cases made : c.outcome.result with
  | error e => exact alike.trans made
  | ok n =>
      obtain ⟨p, ps, wanted, length, all⟩ := handed_of_result csv made
      obtain ⟨columns, body, out, records⟩ := respond_csv_of_handed wanted all
      obtain ⟨columns', document⟩ := respond_xml_of_handed wanted all
      have rows : c.writer.rows = rowsOf (p :: ps) := rows_of_handed csv wanted all
      have rows' : x.writer.rows = rowsOf (p :: ps) := rows_of_handed xml wanted all
      have same : c.writer.columns = x.writer.columns := columns.trans columns'.symm
      refine ⟨alike.trans made, ?_, rows.trans rows'.symm, same, body, _, out, document, ?_⟩
      · rw [rows, rowsOf, List.length_map, length]
      · rw [records, rows, same]
        exact agree_rowsOf x.writer (p :: ps)

end Meteo.Response
