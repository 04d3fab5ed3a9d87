/-
# Meteo.Proofs.Response.Content -- what the calls of a response leave in its writer

The calls of a response fix its columns by the first observation.  The observations are
answered up to the first one with a value under the columns that has no text (`told`), and
whether there is such a one decides what comes of the response (`verdict`).

In CSV there is one record for every observation told, behind the line of the header
(`performAll_observing_csv`); in XML one element for each, and they are written as a
document at the end if all have been told (`performAll_observing_xml`).  `Writes` says of
either format what is left in the writer, and `performAll_script` that the calls do so.

Whole responses put these together with the calls: for the observations that a request
wants, the outcome is their number (`result_deliver`), the rows are those told
(`rows_deliver`), and in either format the text is known (`respond_csv_of_handed`,
`respond_xml_of_handed`).  For CSV it is known as the fields that a reader finds in it.
-/
import Mathlib.Data.List.TakeWhile
import Meteo.Proofs.Response.Calls
import Meteo.Proofs.Response.Csv

namespace Meteo.Response

set_option autoImplicit false

/-! ## One row -/

/-- The text of the value of a variable in CSV; none for a missing value or an absent one. -/
def reported (o : Observation) (name : String) : String :=
  match o.values.get? name with
  | none | some .null => ""
  | some v => v.shown

namespace Row

/-- The fields of a row. -/
def fields (columns : List String) (x : Row) : List String :=
  [x.observation.time.isoText, x.name, Writer.coordinateText x.lat, Writer.coordinateText x.lon] ++
    columns.map (reported x.observation)

end Row

theorem fields_eq (w : Writer) (s : Station) (o : Observation) :
    w.fields s o = (row s o).fields w.columns := by
  have each (name : String) :
      ((o.values.get? name).map Csv.valueText).getD "" = reported o name := by
    rw [reported]
    cases o.values.get? name with
    | none => rfl
    | some v => cases v <;> rfl
  simp only [Writer.fields, Row.fields, each]
  rfl

/-- The records of rows are read back as their fields. -/
theorem records_rows (columns : List String) (xs : List Row) :
    Csv.records (String.join (xs.map fun x => Csv.record (x.fields columns))) =
      xs.map (Row.fields columns) := by
  have filled : ∀ fs ∈ xs.map (Row.fields columns), fs ≠ [] := by
    intro fs member
    obtain ⟨x, -, rfl⟩ := List.mem_map.1 member
    exact List.cons_ne_nil _ _
  rw [← Csv.records_join_record filled, List.map_map]
  rfl

theorem rows_observing (ps : List (Station × Observation)) :
    (observing ps).filterMap Call.row? = rowsOf ps := by
  induction ps with
  | nil => rfl
  | cons p ps ih => exact congrArg (row p.1 p.2 :: ·) ih

theorem rows_script (p : Station × Observation) (ps : List (Station × Observation)) :
    (script (p :: ps)).filterMap Call.row? = rowsOf (p :: ps) := by
  rw [script, List.filterMap_append, ← rows_observing]
  exact List.append_nil _

/-! ## Values with and without texts -/

section Told

variable {columns : List String} {p : Station × Observation} {ps : List (Station × Observation)}

/-- All values that observations have under the columns have texts. -/
def AllTold (columns : List String) (ps : List (Station × Observation)) : Prop :=
  ∀ p ∈ ps, hasTexts columns p.2

instance : Decidable (AllTold columns ps) := inferInstanceAs (Decidable (∀ p ∈ ps, _))

/-- The observations in front of the first one that has a value without a text. -/
def told (columns : List String) (ps : List (Station × Observation)) :
    List (Station × Observation) :=
  ps.takeWhile fun p => hasTexts columns p.2

/-- What comes of writing observations. -/
def verdict (columns : List String) (ps : List (Station × Observation)) : Except Error Unit :=
  if AllTold columns ps then .ok () else .error (.fault .badValue)

theorem told_eq_self (all : AllTold columns ps) : told columns ps = ps :=
  List.takeWhile_eq_self_iff.2 all

theorem told_cons (shown : hasTexts columns p.2) : told columns (p :: ps) = p :: told columns ps :=
  List.takeWhile_cons_of_pos shown

theorem told_cons_of_not (untold : ¬hasTexts columns p.2) : told columns (p :: ps) = [] :=
  List.takeWhile_cons_of_neg untold

theorem verdict_cons (shown : hasTexts columns p.2) :
    verdict columns (p :: ps) = verdict columns ps := by
  have all : AllTold columns (p :: ps) ↔ AllTold columns ps :=
    List.forall_mem_cons.trans (and_iff_right shown)
  simp only [verdict, all]

theorem verdict_cons_of_not (untold : ¬hasTexts columns p.2) :
    verdict columns (p :: ps) = .error (.fault .badValue) :=
  if_neg fun all => untold (all p List.mem_cons_self)

theorem verdict_eq_ok_iff : verdict columns ps = .ok () ↔ AllTold columns ps := by
  rw [verdict]
  split
  · next all => exact iff_of_true rfl all
  · next some => exact iff_of_false nofun some

end Told

/-! ## All rows -/

namespace Writer

variable {w : Writer}

/-- A writer that has written records of observations. -/
def withRecords (w : Writer) (ps : List (Station × Observation)) : Writer :=
  { w with
    out := w.out ++ String.join ((rowsOf ps).map fun x => Csv.record (x.fields w.columns))
    calls := w.calls ++ observing ps }

/-- A writer that has made elements of observations, and some more elements. -/
def withElements (w : Writer) (ps : List (Station × Observation)) (more : List Xml) : Writer :=
  { w with
    elements := w.elements ++ (ps.map (fun p => w.featureElement p.1 p.2) ++ more)
    calls := w.calls ++ observing ps }

theorem withRecords_nil (w : Writer) : w.withRecords [] = w := by
  simp [withRecords, rowsOf, observing]

theorem withRecords_cons (w : Writer) (p : Station × Observation)
    (ps : List (Station × Observation)) :
    (w.withRecords [p]).withRecords ps = w.withRecords (p :: ps) := by
  simp [withRecords, rowsOf, observing, String.join_cons, String.append_assoc]

theorem withElements_nil (w : Writer) : w.withElements [] [] = w := by
  simp [withElements, observing]

theorem withElements_cons (w : Writer) (p : Station × Observation)
    (ps : List (Station × Observation)) (more : List Xml) :
    (w.withElements [p] []).withElements ps more = w.withElements (p :: ps) more := by
  simp [withElements, observing, featureElement, dataElements, dataElement, unit?]

theorem performAll_observing_csv (csv : w.format = .csv) (ps : List (Station × Observation)) :
    w.performAll (observing ps) =
      ⟨w.withRecords (told w.columns ps), verdict w.columns ps⟩ := by
  induction ps generalizing w with
  | nil => exact congrArg (Attempt.done · ()) (withRecords_nil w).symm
  | cons p ps ih =>
      rw [observing, List.map_cons, performAll_cons]
      by_cases shown : hasTexts w.columns p.2
      · have answered : w.attempt (.observation p.1 p.2) = .done (w.withRecords [p]) () := by
          simp [attempt, effect, csv, shown, fields_eq, withRecords, rowsOf, observing,
            String.join_cons]
        rw [answered, Attempt.andThen_done, told_cons shown, verdict_cons shown]
        exact (ih (w := w.withRecords [p]) csv).trans
          (congrArg (Attempt.mk · _) (withRecords_cons w p _))
      · have untold : w.attempt (.observation p.1 p.2) = .refused w (.fault .badValue) := by
          simp [attempt, effect, csv, shown]
        rw [untold, Attempt.andThen_refused, told_cons_of_not shown, verdict_cons_of_not shown,
          withRecords_nil]
        rfl

/-- In XML the element of an observation that cannot be told has been begun. -/
theorem performAll_observing_xml (xml : w.format = .xml) (ps : List (Station × Observation)) :
    ∃ begun, (AllTold w.columns ps → begun = []) ∧ w.performAll (observing ps) =
      ⟨w.withElements (told w.columns ps) begun, verdict w.columns ps⟩ := by
  induction ps generalizing w with
  | nil => exact ⟨[], fun _ => rfl, congrArg (Attempt.done · ()) (withElements_nil w).symm⟩
  | cons p ps ih =>
      rw [observing, List.map_cons, performAll_cons]
      by_cases shown : hasTexts w.columns p.2
      · have answered : w.attempt (.observation p.1 p.2) = .done (w.withElements [p] []) () := by
          simp [attempt, effect, xml, shown, withElements, observing]
        obtain ⟨begun, none, rest⟩ := ih (w := w.withElements [p] []) xml
        refine ⟨begun, fun all => none fun q later => all q (List.mem_cons_of_mem _ later), ?_⟩
        rw [answered, Attempt.andThen_done, told_cons shown, verdict_cons shown]
        exact rest.trans (congrArg (Attempt.mk · _) (withElements_cons w p _ begun))
      · have untold : w.attempt (.observation p.1 p.2) =
            .refused (w.withElements [] [elementOf p.1 p.2 (w.begunElements p.2)])
              (.fault .badValue) := by
          simp [attempt, effect, xml, shown, withElements, observing]
        refine ⟨[elementOf p.1 p.2 (w.begunElements p.2)],
          fun all => absurd (all p List.mem_cons_self) shown, ?_⟩
        rw [untold, Attempt.andThen_refused, told_cons_of_not shown, verdict_cons_of_not shown]
        rfl

/-- The calls of a response with observations are taken apart at the header and at the footer. -/
theorem performAll_script_cons (w : Writer) (p : Station × Observation)
    (ps : List (Station × Observation)) :
    w.performAll (script (p :: ps)) =
      (w.attempt (.header p.2)).andThen fun w _ =>
        (w.performAll (observing (p :: ps))).andThen fun w _ => w.attempt .footer := by
  rw [script, HeaderState.calls, List.cons_append, performAll_cons]
  simp only [performAll_append, performAll_singleton]

/-- What a response with these rows has written before it ends. -/
def streamed (w : Writer) (xs : List Row) : String :=
  match w.format with
  | .csv => Csv.joined w.headerFields ++
      String.join (xs.map fun x => Csv.record (x.fields w.columns))
  | _ => ""

/-- What the calls of a response with these observations leave in a writer. -/
structure Writes (w : Writer) (p : Station × Observation) (ps : List (Station × Observation))
    (w' : Writer) : Prop where
  format : w'.format = w.format
  units : w'.units = w.units
  columns : w'.columns = w.columnsFor p.2
  ended : AllTold (w.columnsFor p.2) (p :: ps) → w'.calls = w.calls ++ script (p :: ps)
  csv : w.format = .csv → AllTold (w.columnsFor p.2) (p :: ps) →
    w'.out = w.out ++ w'.streamed (rowsOf (p :: ps))
  xml : w.format = .xml → AllTold (w.columnsFor p.2) (p :: ps) →
    w'.elements = w.elements ++ (p :: ps).map (fun p => w'.featureElement p.1 p.2) ∧
      w'.out = w.out ++ w'.documentText
  stopped : ¬AllTold (w.columnsFor p.2) (p :: ps) →
    w'.calls = w.calls ++ .header p.2 :: observing (told (w.columnsFor p.2) (p :: ps)) ∧
      w'.out = w.out ++ w'.streamed (rowsOf (told (w.columnsFor p.2) (p :: ps)))

theorem attempt_footer_csv (csv : w.format = .csv) :
    w.attempt .footer = .done { w with calls := w.calls ++ [.footer] } () := by
  simp [attempt, effect, csv]

theorem attempt_footer_xml (xml : w.format = .xml) :
    w.attempt .footer =
      .done { w with out := w.out ++ w.documentText, calls := w.calls ++ [.footer] } () := by
  simp [attempt, effect, xml]

theorem performAll_script_csv (csv : w.format = .csv) (p : Station × Observation)
    (ps : List (Station × Observation)) :
    ∃ w', w.performAll (script (p :: ps)) = ⟨w', verdict (w.columnsFor p.2) (p :: ps)⟩ ∧
      Writes w p ps w' := by
  let titled := { w with columns := w.columnsFor p.2 }
  let begun := { titled with
    out := w.out ++ Csv.joined titled.headerFields, calls := w.calls ++ [Call.header p.2] }
  have opened : w.attempt (.header p.2) = .done begun () := by
    simp [attempt, effect, csv, begun, titled]
  have calls (qs : List (Station × Observation)) :
      (begun.withRecords qs).calls = w.calls ++ .header p.2 :: observing qs :=
    List.append_assoc ..
  have out (qs : List (Station × Observation)) :
      (begun.withRecords qs).out = w.out ++ (begun.withRecords qs).streamed (rowsOf qs) := by
    rw [streamed, show (begun.withRecords qs).format = .csv from csv]
    exact String.append_assoc ..
  have other : w.format ≠ .xml := by rw [csv]; decide
  rw [performAll_script_cons, opened, Attempt.andThen_done,
    performAll_observing_csv (w := begun) csv]
  by_cases all : AllTold (w.columnsFor p.2) (p :: ps)
  · rw [show told begun.columns (p :: ps) = p :: ps from told_eq_self all, verdict, if_pos all]
    refine ⟨_, attempt_footer_csv csv, rfl, rfl, rfl, fun _ => ?_, fun _ _ => out _,
      fun xml => absurd xml other, fun some => absurd all some⟩
    exact (congrArg (· ++ _) (calls _)).trans (List.append_assoc ..)
  · rw [verdict, if_neg all]
    exact ⟨_, rfl, rfl, rfl, rfl, fun all' => absurd all' all, fun _ all' => absurd all' all,
      fun xml => absurd xml other, fun _ => ⟨calls _, out _⟩⟩

theorem performAll_script_xml (xml : w.format = .xml) (p : Station × Observation)
    (ps : List (Station × Observation)) :
    ∃ w', w.performAll (script (p :: ps)) = ⟨w', verdict (w.columnsFor p.2) (p :: ps)⟩ ∧
      Writes w p ps w' := by
  let begun := { w with columns := w.columnsFor p.2, calls := w.calls ++ [Call.header p.2] }
  have opened : w.attempt (.header p.2) = .done begun () := by
    simp [attempt, effect, xml, begun]
  have calls (qs : List (Station × Observation)) (more : List Xml) :
      (begun.withElements qs more).calls = w.calls ++ .header p.2 :: observing qs :=
    List.append_assoc ..
  have out (qs : List (Station × Observation)) (more : List Xml) (xs : List Row) :
      (begun.withElements qs more).out = w.out ++ (begun.withElements qs more).streamed xs := by
    rw [streamed, show (begun.withElements qs more).format = .xml from xml]
    exact String.append_empty.symm
  have other : w.format ≠ .csv := by rw [xml]; decide
  obtain ⟨more, none, observed⟩ := performAll_observing_xml (w := begun) xml (p :: ps)
  rw [performAll_script_cons, opened, Attempt.andThen_done, observed]
  by_cases all : AllTold (w.columnsFor p.2) (p :: ps)
  · rw [show told begun.columns (p :: ps) = p :: ps from told_eq_self all, none all, verdict,
      if_pos all]
    refine ⟨_, attempt_footer_xml xml, rfl, rfl, rfl, fun _ => ?_, fun csv => absurd csv other,
      fun _ _ => ⟨?_, rfl⟩, fun some => absurd all some⟩
    · exact (congrArg (· ++ _) (calls _ [])).trans (List.append_assoc ..)
    · exact congrArg (w.elements ++ ·) (List.append_nil _)
  · rw [verdict, if_neg all]
    exact ⟨_, rfl, rfl, rfl, rfl, fun all' => absurd all' all, fun csv => absurd csv other,
      fun _ all' => absurd all' all, fun _ => ⟨calls _ more, out _ more _⟩⟩

/-- A writer with a format answers the calls of a response as far as values have texts. -/
theorem performAll_script (supported : w.format ≠ .unspecified) (p : Station × Observation)
    (ps : List (Station × Observation)) :
    ∃ w', w.performAll (script (p :: ps)) = ⟨w', verdict (w.columnsFor p.2) (p :: ps)⟩ ∧
      Writes w p ps w' := by
  cases format : w.format with
  | csv => exact performAll_script_csv format p ps
  | xml => exact performAll_script_xml format p ps
  | unspecified => exact absurd format supported

theorem Writes.rows {p : Station × Observation} {ps : List (Station × Observation)} {w' : Writer}
    (writes : Writes w p ps w') : w'.rows = w.rows ++ rowsOf (told w'.columns (p :: ps)) := by
  rw [writes.columns, Writer.rows]
  by_cases all : AllTold (w.columnsFor p.2) (p :: ps)
  · rw [writes.ended all, List.filterMap_append, rows_script, told_eq_self all]
    rfl
  · rw [(writes.stopped all).1, List.filterMap_append, ← rows_observing]
    rfl

end Writer

/-! ## Whole responses -/

/-- The columns of a response whose first observation is `first`. -/
def columnsOf (cs : List Collection) (r : Request) (first : Observation) : List String :=
  (variablesFor cs r).getD first.values.names

section Whole

variable {cs : List Collection} {r : Request} {p : Station × Observation}
  {ps : List (Station × Observation)}

/-- A response of which nothing is wanted fails and leaves its writer alone. -/
theorem deliver_of_error {w : Writer} {e : Error} (failed : handed cs r = .error e) :
    (deliver w cs r).outcome.result = .error e ∧ (deliver w cs r).writer = prepared w cs r := by
  have made := attempt_deliver w cs r
  rw [failed] at made
  exact ⟨congrArg Attempt.result made, congrArg Attempt.writer made⟩

/-- A response of wanted observations succeeds if all their values under the columns have texts, and
writes them as far as they have. -/
theorem deliver_of_handed {w : Writer} (supported : w.format ≠ .unspecified)
    (wanted : handed cs r = .ok (p :: ps)) :
    (deliver w cs r).outcome.result =
        ((verdict ((prepared w cs r).columnsFor p.2) (p :: ps)).map fun _ => (p :: ps).length) ∧
      Writer.Writes (prepared w cs r) p ps (deliver w cs r).writer := by
  obtain ⟨w', answers, writes⟩ :=
    Writer.performAll_script (w := prepared w cs r) supported p ps
  have made : (deliver w cs r).attempt =
      ((prepared w cs r).performAll (script (p :: ps))).andThen fun w _ =>
        .done w (p :: ps).length := by
    rw [attempt_deliver, wanted]
  rw [answers] at made
  have left : (deliver w cs r).writer = w' := by
    rw [show (deliver w cs r).writer = _ from congrArg Attempt.writer made]
    exact Attempt.writer_andThen_done _ _
  rw [left]
  refine ⟨(congrArg Attempt.result made).trans ?_, writes⟩
  exact Attempt.result_andThen_done _ _

/-- The columns of a response, which has none if nothing is wanted. -/
theorem columns_deliver {format : Format} (supported : format ≠ .unspecified) :
    (deliver { format } cs r).writer.columns =
      match handed cs r with
      | .ok (p :: _) => columnsOf cs r p.2
      | _ => [] := by
  cases wanted : handed cs r with
  | error e => exact congrArg Writer.columns (deliver_of_error wanted).2
  | ok ps =>
      obtain ⟨p, ps, rfl⟩ := List.exists_cons_of_ne_nil (ne_nil_of_handed wanted)
      exact (deliver_of_handed (w := { format }) supported wanted).2.columns

/-- The outcome of a response in a format. -/
theorem result_deliver {format : Format} (supported : format ≠ .unspecified) :
    (deliver { format } cs r).outcome.result =
      handed cs r >>= fun ps =>
        (verdict (deliver { format } cs r).writer.columns ps).map fun _ => ps.length := by
  cases wanted : handed cs r with
  | error e => exact (deliver_of_error wanted).1
  | ok ps =>
      obtain ⟨p, ps, rfl⟩ := List.exists_cons_of_ne_nil (ne_nil_of_handed wanted)
      obtain ⟨result, writes⟩ := deliver_of_handed (w := { format }) supported wanted
      rw [writes.columns]
      exact result

/-- The rows of a response in a format, which has none if nothing is wanted. -/
theorem rows_deliver {format : Format} (supported : format ≠ .unspecified) :
    (deliver { format } cs r).writer.rows =
      match handed cs r with
      | .ok ps => rowsOf (told (deliver { format } cs r).writer.columns ps)
      | _ => [] := by
  cases wanted : handed cs r with
  | error e => exact congrArg Writer.rows (deliver_of_error wanted).2
  | ok ps =>
      obtain ⟨p, ps, rfl⟩ := List.exists_cons_of_ne_nil (ne_nil_of_handed wanted)
      exact (deliver_of_handed (w := { format }) supported wanted).2.rows

/-- A response that succeeds has observations, and all their values have texts. -/
theorem handed_of_result {format : Format} (supported : format ≠ .unspecified) {n : Nat}
    (made : (deliver { format } cs r).outcome.result = .ok n) :
    ∃ p ps, handed cs r = .ok (p :: ps) ∧ (p :: ps).length = n ∧
      AllTold (columnsOf cs r p.2) (p :: ps) := by
  rw [result_deliver supported] at made
  obtain ⟨ps, wanted, rest⟩ := Outcome.bind_eq_ok.1 made
  obtain ⟨⟨⟩, all, counted⟩ := Outcome.map_eq_ok.1 rest
  obtain ⟨p, ps, rfl⟩ := List.exists_cons_of_ne_nil (ne_nil_of_handed wanted)
  rw [columns_deliver supported, wanted] at all
  exact ⟨p, ps, wanted, counted, verdict_eq_ok_iff.1 all⟩

/-- The rows of a response that succeeds are the observations that are wanted. -/
theorem rows_of_handed {format : Format} (supported : format ≠ .unspecified)
    (wanted : handed cs r = .ok (p :: ps)) (all : AllTold (columnsOf cs r p.2) (p :: ps)) :
    (deliver { format } cs r).writer.rows = rowsOf (p :: ps) := by
  simp only [rows_deliver supported, columns_deliver supported, wanted]
  exact congrArg rowsOf (told_eq_self all)

/-- A CSV response is the line of its header and the records of its rows. -/
theorem respond_csv_of_handed (wanted : handed cs r = .ok (p :: ps))
    (all : AllTold (columnsOf cs r p.2) (p :: ps)) :
    let w := (respond cs r "csv").writer
    w.columns = columnsOf cs r p.2 ∧
      ∃ body, w.out = Csv.joined w.headerFields ++ body ∧
        Csv.records body = (rowsOf (p :: ps)).map (Row.fields w.columns) := by
  intro w
  have writes := (deliver_of_handed (w := { format := .csv }) (by decide) wanted).2
  have out := (writes.csv rfl all).trans String.empty_append
  rw [Writer.streamed, writes.format] at out
  exact ⟨writes.columns, _, out, records_rows _ _⟩

/-- An XML response is the document of the elements of its observations. -/
theorem respond_xml_of_handed (wanted : handed cs r = .ok (p :: ps))
    (all : AllTold (columnsOf cs r p.2) (p :: ps)) :
    let w := (respond cs r "xml").writer
    w.columns = columnsOf cs r p.2 ∧
      w.out = Xml.document (.element "stationFeatureCollection" [] ""
        ((p :: ps).map fun p => w.featureElement p.1 p.2)) := by
  have writes := (deliver_of_handed (w := { format := .xml }) (by decide) wanted).2
  obtain ⟨elements, out⟩ := writes.xml rfl all
  refine ⟨writes.columns, out.trans (String.empty_append.trans ?_)⟩
  rw [Writer.documentText, elements]
  rfl

end Whole

end Meteo.Response
