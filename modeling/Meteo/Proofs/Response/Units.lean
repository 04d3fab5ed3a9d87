/-
# Meteo.Proofs.Response.Units -- the units that a response shows

The units of a response are merged from its collections before anything is written, and
no call changes them (`units_deliver`).  A unit that has been merged stays, so the unit of
a variable is that of the first collection that declares it (`unit?_deliver`): behind its
name in the header of CSV, in its elements in XML (`shows_unitOf`).

The rows come from the collections one after the other (`handed_parts`), but all of them
are shown with these units (`respond_unit_of_first`).  A row from a collection that declares
another unit than the first one is shown with the unit of the first
(`not_showsOwnUnits`).
-/
import Meteo.Proofs.Response.Columns
import Meteo.Proofs.Table

namespace Meteo

set_option autoImplicit false

namespace Collection

/-- Whether a collection declares a variable. -/
def declares (c : Collection) (name : String) : Bool := c.vars.contains name

/-- The unit that a collection declares for a variable; an empty one is none. -/
def unit? (c : Collection) (name : String) : Option String :=
  ((c.vars.get? name).join).filter fun u => !u.isEmpty

end Collection

namespace Response

/-! ## Merged units -/

/-- The unit of a variable in the first collection that declares it. -/
def unitOf (cs : List Collection) (name : String) : Option String :=
  (cs.find? (·.declares name)).bind (·.unit? name)

theorem unitOf_cons (c : Collection) (cs : List Collection) (name : String) :
    unitOf (c :: cs) name = if c.declares name then c.unit? name else unitOf cs name := by
  rw [unitOf, List.find?_cons]
  split
  · next declared => rw [if_pos declared, Option.bind_some]
  · next undeclared =>
    rw [if_neg (Bool.eq_false_iff.1 undeclared)]
    rfl

theorem get?_unitsFor (cs : List Collection) (name : String) :
    (((unitsFor .empty cs).get? name).join).filter (fun u => !u.isEmpty) = unitOf cs name := by
  rw [unitsFor, Table.get?_foldl_insertNew, show Table.empty.get? name = none from rfl,
    Option.none_or]
  induction cs with
  | nil => rfl
  | cons c cs ih =>
      rw [List.flatMap_cons, List.lookup_append, unitOf_cons, Collection.declares,
        Table.contains_eq_isSome, Collection.unit?, Table.get?]
      cases c.vars.entries.lookup name with
      | none => exact ih
      | some declared => rfl

section Delivered

variable {format : Format} {cs : List Collection} {r : Request} {p : Station × Observation}
  {ps : List (Station × Observation)}

theorem units_deliver (supported : format ≠ .unspecified) (cs : List Collection) (r : Request) :
    (deliver { format } cs r).writer.units = unitsFor .empty cs := by
  cases wanted : handed cs r with
  | error e => exact congrArg Writer.units (deliver_of_error wanted).2
  | ok ps =>
      obtain ⟨p, ps, rfl⟩ := List.exists_cons_of_ne_nil (ne_nil_of_handed wanted)
      exact (deliver_of_handed (w := { format }) supported wanted).2.units

/-- A response shows a variable with the unit of the first collection that declares it. -/
theorem unit?_deliver (supported : format ≠ .unspecified) (cs : List Collection) (r : Request)
    (name : String) : (deliver { format } cs r).writer.unit? name = unitOf cs name := by
  rw [Writer.unit?, units_deliver supported, get?_unitsFor]

/-- The elements of the values that a row has in the columns, with these units. -/
def dataWith (unit : String → Option String) (columns : List String) (x : Row) : List Xml :=
  columns.filterMap fun name => (x.observation.values.get? name).map fun v =>
    .element "data" (("name", name) :: ((unit name).map fun u => ("units", u)).toList) v.shown []

theorem featureElement_eq (w : Writer) (s : Station) (o : Observation) :
    w.featureElement s o = .element "stationFeature" [("date", o.time.isoText)] ""
      (.element "station" (Writer.stationAttributes s) "" [] ::
        dataWith w.unit? w.columns (row s o)) := rfl

/-- A response shows the variables of its rows with these units: in CSV behind their names in the
header, in XML in the elements of each row. -/
def Shows (w : Writer) (unit : Row → String → Option String) : Prop :=
  match w.format with
  | .csv => (∃ body, w.out = Csv.joined w.headerFields ++ body) ∧
      ∀ x ∈ w.rows, ∀ j name, w.columns[j]? = some name →
        w.headerFields[4 + j]? = some (Writer.label name (unit x name))
  | .xml => w.out = w.documentText ∧
      List.Forall₂ (fun x feature => ∃ date station,
        feature = .element "stationFeature" date "" (station :: dataWith (unit x) w.columns x))
        w.rows w.elements
  | .unspecified => False

theorem shows_unitOf (supported : format ≠ .unspecified) (wanted : handed cs r = .ok (p :: ps))
    (all : AllTold (columnsOf cs r p.2) (p :: ps)) :
    Shows (deliver { format } cs r).writer fun _ => unitOf cs := by
  have unit : (deliver { format } cs r).writer.unit? = unitOf cs :=
    funext (unit?_deliver supported cs r)
  have writes := (deliver_of_handed (w := { format }) supported wanted).2
  rw [Shows, writes.format]
  cases format with
  | unspecified => exact absurd rfl supported
  | csv =>
      obtain ⟨-, body, out, -⟩ := respond_csv_of_handed wanted all
      refine ⟨⟨body, out⟩, fun x _ j name column => ?_⟩
      rw [← unit]
      exact getElem?_behind_place rfl _ column
  | xml =>
      obtain ⟨elements, out⟩ := writes.xml rfl all
      have made : (deliver { format := .xml } cs r).writer.elements =
          (p :: ps).map fun p =>
            (deliver { format := .xml } cs r).writer.featureElement p.1 p.2 := elements
      refine ⟨out.trans String.empty_append, ?_⟩
      rw [made, rows_of_handed supported wanted all, rowsOf, List.forall₂_map_left_iff,
        List.forall₂_map_right_iff, List.forall₂_same]
      intro p' _
      rw [featureElement_eq, unit]
      exact ⟨_, _, rfl⟩

end Delivered

theorem ne_unspecified_of_ofName {name : String} {format : Format}
    (named : Format.ofName name = .ok format) : format ≠ .unspecified := by
  rintro rfl
  rw [Format.ofName] at named
  split at named
  · next found =>
    cases named
    obtain ⟨before, behind, entries, -⟩ := List.lookup_eq_some_iff.1 found
    have listed : (Text.lower name, Format.unspecified) ∈ Format.named := by
      rw [entries]
      exact List.mem_append_right before List.mem_cons_self
    simp [Format.named] at listed
  · cases named

/-- A response that succeeds is one in a format. -/
theorem respond_eq_deliver {cs : List Collection} {r : Request} {name : String} {n : Nat}
    (made : (respond cs r name).outcome.result = .ok n) :
    ∃ format, format ≠ .unspecified ∧ respond cs r name = deliver { format } cs r := by
  rw [respond] at made ⊢
  cases named : Format.ofName name with
  | error e => rw [named] at made; cases made
  | ok format => exact ⟨format, ne_unspecified_of_ofName named, rfl⟩

/-! ## Rows of one collection after the other -/

/-- The rows that a request wants of one collection. -/
def rowsFrom (r : Request) (c : Collection) : Except Error (List Row) := do
  let ss ← (Selection.contribution r c).result
  return rowsOf (← Times.pairsOf r ss)

/-- The selected stations are those of one collection after the other. -/
theorem contributions_parts {cs : List Collection} {r : Request} {ss : List Station}
    (selected : (Selection.contributions r cs).result = .ok ss) :
    ∃ parts, List.Forall₂ (fun c own => (Selection.contribution r c).result = .ok own) cs parts ∧
      ss = parts.flatten := by
  induction cs generalizing ss with
  | nil =>
      cases selected
      exact ⟨[], .nil, rfl⟩
  | cons c cs ih =>
      rw [Selection.result_contributions_cons] at selected
      obtain ⟨own, first, rest⟩ := Outcome.bind_eq_ok.1 selected
      obtain ⟨others, later, made⟩ := Outcome.bind_eq_ok.1 rest
      cases made
      obtain ⟨parts, each, rfl⟩ := ih later
      exact ⟨own :: parts, .cons first each, rfl⟩

/-- The rows of a response are those of one collection after the other. -/
theorem handed_parts {cs : List Collection} {r : Request} {ps : List (Station × Observation)}
    (wanted : handed cs r = .ok ps) :
    ∃ parts, List.Forall₂ (fun c own => rowsFrom r c = .ok own) cs parts ∧
      rowsOf ps = parts.flatten := by
  have some := ne_nil_of_handed wanted
  rw [handed] at wanted
  obtain ⟨ss, selected, rest⟩ := Outcome.bind_eq_ok.1 wanted
  obtain ⟨qs, paired, made⟩ := Outcome.bind_eq_ok.1 rest
  split at made
  · cases made
  cases made
  rw [Times.pairsOf] at paired
  split at paired
  · cases paired
    exact absurd rfl some
  -- There is a station, so the times of the request can be read.
  obtain ⟨t, readable, rfl⟩ : ∃ t, Times.ofRequest r = .ok t ∧ t.pairs ss = ps := by
    cases readable : Times.ofRequest r with
    | error e => rw [readable] at paired; cases paired
    | ok t => rw [readable] at paired; exact ⟨t, rfl, Except.ok.inj paired⟩
  have pairs (own : List Station) : Times.pairsOf r own = .ok (t.pairs own) := by
    rw [Times.pairsOf]
    split
    · next none => rw [List.isEmpty_iff.1 none, Times.pairs_nil]
    · rw [readable]
      rfl
  rw [select, Logged.result_bind] at selected
  obtain ⟨wanted, contributed, reported⟩ := Outcome.bind_eq_ok.1 selected
  cases reported
  obtain ⟨parts, each, rfl⟩ := contributions_parts contributed
  refine ⟨parts.map fun own => rowsOf (t.pairs own), ?_, ?_⟩
  · rw [List.forall₂_map_right_iff]
    refine each.imp fun c own first => ?_
    rw [rowsFrom, first]
    simp only [bind, Except.bind, pairs]
    rfl
  · rw [Times.pairs_flatten, rowsOf, List.map_flatten, List.map_map]
    rfl

/-! ## Units and rows -/

/-- In a response of collections of the requested kind a variable has the unit of the first
collection that declares it, whichever collection a row comes from; this is the unit of the
collection of the row if all collections that declare the variable have the same unit for it. -/
theorem respond_unit_of_first {cs : List Collection} {r : Request} {format : String} {n : Nat}
    (kinds : ∀ c ∈ cs, c.kind = r.kind)
    (made : (respond cs r format).outcome.result = .ok n) :
    let w := (respond cs r format).writer
    w.rows.length = n ∧ Shows w (fun _ => unitOf cs) ∧
      ∃ parts, List.Forall₂ (fun c own => rowsFrom r c = .ok own) cs parts ∧
        w.rows = parts.flatten ∧
        ∀ c own, (c, own) ∈ cs.zip parts → ∀ x ∈ own, ∀ name ∈ w.columns,
          name ∈ x.observation.values.names → c.declares name →
            (∃ d, cs.find? (·.declares name) = some d ∧ d.kind = r.kind ∧
              unitOf cs name = d.unit? name) ∧
            ((∀ d ∈ cs, d.declares name → d.unit? name = c.unit? name) →
              unitOf cs name = c.unit? name) := by
  intro w
  obtain ⟨f, supported, delivered⟩ := respond_eq_deliver made
  rw [delivered] at made
  obtain ⟨p, ps, wanted, counted, all⟩ := handed_of_result supported made
  have rows : w.rows = rowsOf (p :: ps) :=
    (congrArg (·.writer.rows) delivered).trans (rows_of_handed supported wanted all)
  have shown : Shows w fun _ => unitOf cs := by
    rw [show w = (deliver { format := f } cs r).writer from congrArg (·.writer) delivered]
    exact shows_unitOf supported wanted all
  obtain ⟨parts, each, flat⟩ := handed_parts wanted
  refine ⟨by rw [rows, rowsOf, List.length_map, counted], shown, parts, each, rows.trans flat, ?_⟩
  intro c own member x _ name _ _ declared
  have listed : c ∈ cs := (List.of_mem_zip member).1
  obtain ⟨d, found⟩ : ∃ d, cs.find? (·.declares name) = some d :=
    Option.isSome_iff_exists.1 (List.find?_isSome.2 ⟨c, listed, declared⟩)
  have first : unitOf cs name = d.unit? name := by rw [unitOf, found, Option.bind_some]
  have among : d ∈ cs := List.mem_of_find?_eq_some found
  have declaring : d.declares name := (List.find?_eq_some_iff_append.1 found).1
  exact ⟨⟨d, found, kinds d among, first⟩, fun agree => first.trans (agree d among declaring)⟩

/-- Temperatures in kelvin. -/
def inKelvin : Collection :=
  { name := "synop"
    stations := [{ name := "A", lat := 1.0, lon := 2.0, observations := [
      ⟨⟨0⟩, .ofList [("temp", .int 280)]⟩] }]
    vars := .ofList [("temp", some "K")] }

/-- Temperatures in degrees Celsius. -/
def inCelsius : Collection :=
  { name := "buoys"
    stations := [{ name := "B", lat := 3.0, lon := 4.0, observations := [
      ⟨⟨0⟩, .ofList [("temp", .int 7), ("wave", .int 2)]⟩] }]
    vars := .ofList [("temp", some "degC"), ("wave", some "m")] }

theorem respond_unit_of_first_mixed :
    (∀ c ∈ [inKelvin, inCelsius], c.kind = ({} : Request).kind) ∧
      (respond [inKelvin, inCelsius] {} "XML").outcome.result = .ok 2 ∧
      let w := (respond [inKelvin, inCelsius] {} "XML").writer
      w.rows.length = 2 ∧ Shows w (fun _ => unitOf [inKelvin, inCelsius]) ∧
        unitOf [inKelvin, inCelsius] "temp" = some "K" ∧
        unitOf [inKelvin, inCelsius] "wave" = some "m" := by
  have kinds : ∀ c ∈ [inKelvin, inCelsius], c.kind = ({} : Request).kind := by decide
  have made : (respond [inKelvin, inCelsius] {} "XML").outcome.result = .ok 2 := by rfl
  obtain ⟨counted, shown, -⟩ := respond_unit_of_first kinds made
  exact ⟨kinds, made, counted, shown, rfl, rfl⟩

/-! ## Units of other collections -/

/-- In a response every row has each of its variables shown with the unit that the collection it
comes from declares for it. -/
def ShowsOwnUnits (cs : List Collection) (r : Request) (w : Writer) : Prop :=
  ∃ unit parts, Shows w unit ∧ List.Forall₂ (fun c own => rowsFrom r c = .ok own) cs parts ∧
    w.rows = parts.flatten ∧
    ∀ c own, (c, own) ∈ cs.zip parts → ∀ x ∈ own, ∀ name ∈ w.columns,
      name ∈ x.observation.values.names → c.declares name → unit x name = c.unit? name

/-- The row of the temperature in degrees Celsius. -/
def celsiusRow : Row := ⟨"B", 3.0, 4.0, none, ⟨⟨0⟩, .ofList [("temp", .int 7), ("wave", .int 2)]⟩⟩

theorem unit_celsiusRow {w : Writer} {unit : Row → String → Option String}
    {parts : List (List Row)} (columns : "temp" ∈ w.columns)
    (each : List.Forall₂ (fun c own => rowsFrom {} c = .ok own) [inKelvin, inCelsius] parts)
    (own : ∀ c own, (c, own) ∈ [inKelvin, inCelsius].zip parts → ∀ x ∈ own, ∀ name ∈ w.columns,
      name ∈ x.observation.values.names → c.declares name → unit x name = c.unit? name) :
    unit celsiusRow "temp" = some "degC" := by
  obtain _ | ⟨-, _ | ⟨second, _ | _⟩⟩ := each
  have rows : rowsFrom {} inCelsius = .ok [celsiusRow] := rfl
  cases rows.symm.trans second
  exact own inCelsius [celsiusRow] (by simp) celsiusRow (by simp) "temp" columns (by decide) rfl

/-- The temperature in degrees Celsius is shown as one in kelvin, in either format. -/
theorem not_showsOwnUnits :
    (∀ c ∈ [inKelvin, inCelsius], c.kind = ({} : Request).kind) ∧
      ∀ format ∈ ["csv", "xml"],
        (respond [inKelvin, inCelsius] {} format).outcome.result = .ok 2 ∧
          ¬ ShowsOwnUnits [inKelvin, inCelsius] {}
            (respond [inKelvin, inCelsius] {} format).writer := by
  refine ⟨by decide, fun format member => ?_⟩
  rw [List.mem_cons, List.mem_singleton] at member
  obtain rfl | rfl := member
  · refine ⟨rfl, ?_⟩
    rintro ⟨unit, parts, shown, each, flat, own⟩
    have celsius := unit_celsiusRow (by decide) each own
    have label := shown.2 celsiusRow (List.mem_cons_of_mem _ List.mem_cons_self) 0 "temp" rfl
    rw [celsius] at label
    exact absurd label (by decide)
  · refine ⟨rfl, ?_⟩
    rintro ⟨unit, parts, shown, each, flat, own⟩
    have celsius := unit_celsiusRow (by decide) each own
    obtain ⟨x, rows⟩ : ∃ x, (respond [inKelvin, inCelsius] {} "xml").writer.rows =
        [x, celsiusRow] := ⟨_, rfl⟩
    obtain ⟨feature, date, station, elements⟩ : ∃ feature date station,
        (respond [inKelvin, inCelsius] {} "xml").writer.elements =
          [feature, .element "stationFeature" date "" [station,
            .element "data" [("name", "temp"), ("units", "K")] "7" [],
            .element "data" [("name", "wave"), ("units", "m")] "2" []]] := ⟨_, _, _, rfl⟩
    have elementwise := shown.2
    rw [rows, elements] at elementwise
    obtain _ | ⟨-, _ | ⟨⟨_, _, same⟩, -⟩⟩ := elementwise
    have data := (List.cons.inj (Xml.element.inj same).2.2.2).2
    have kelvin := (Xml.element.inj (List.cons.inj data).1).2.1
    rw [celsius] at kelvin
    exact absurd kelvin (by decide)

end Response

end Meteo
