/-
# Meteo.Proofs.Response.Document -- what a reader finds in an XML response

An XML response is the document of an element in which every row has an element of its
own (`out_eq_document`).  A reader finds these elements in it (`Documents`) with the name of
the station and with the name, the unit and the text of every value, as long as those
strings can be written in XML at all.

The numbers and times in the response can always be written.  Names, units and texts come
from data, and nothing is done about characters that XML does not have: with one of them the
response is not well-formed (`isSome_read_rootElement`, `read_control`).  In attributes the
ends of lines are written as references and come back.  In texts they are not, so that a
carriage return comes back as a line feed (`documents_rootElement`, `not_documents_return`).
-/
import Meteo.Proofs.Response.Units
import Meteo.Proofs.Response.Xml.Figures
import Meteo.Proofs.Response.Xml.Reading

namespace Meteo.Response

set_option autoImplicit false

/-! ## What a document says -/

namespace Row

/-- The values that a row has in the columns. -/
def shown (columns : List String) (x : Row) : List (String × Value) :=
  columns.filterMap fun name => (x.observation.values.get? name).map fun v => (name, v)

/-- The attributes of the station of a row. -/
def station (x : Row) : List (String × String) :=
  [("name", x.name), ("latitude", Writer.coordinateText x.lat),
      ("longitude", Writer.coordinateText x.lon)] ++
    (x.altitude.map fun a => ("altitude", Double.general a)).toList

end Row

/-- A node is the element of a value of this name with this unit and this text. -/
structure IsValue (name : String) (unit : Option String) (text : String) (n : Xml.Node) :
    Prop where
  tag : n.tag? = some "data"
  name : n.attribute? "name" = some name
  unit : n.attribute? "units" = unit
  text : n.content = text

/-- A node is the element of a row. -/
structure IsRow (unit : String → Option String) (columns : List String) (x : Row)
    (n : Xml.Node) : Prop where
  tag : n.tag? = some "stationFeature"
  date : n.attribute? "date" = some x.observation.time.isoText
  inside : ∃ station values, n.elements = station :: values ∧
    station.tag? = some "station" ∧
    (∀ name, station.attribute? name = x.station.lookup name) ∧
    List.Forall₂ (fun e n => IsValue e.1 (unit e.1) e.2.shown n) (x.shown columns) values

/-- A text is a document with an element for each row, in order. -/
def Documents (unit : String → Option String) (columns : List String) (xs : List Row)
    (text : String) : Prop :=
  ∃ root, Xml.read text = some root ∧ root.tag? = some "stationFeatureCollection" ∧
    List.Forall₂ (IsRow unit columns) xs root.elements

/-- The strings that a document shows of a row have no characters but those that are allowed. -/
structure Allowed (unit : String → Option String) (columns : List String) (x : Row) : Prop where
  station : Xml.allowed x.name
  values : ∀ e ∈ x.shown columns,
    Xml.allowed e.1 ∧ (∀ u ∈ unit e.1, Xml.allowed u) ∧ Xml.allowed e.2.shown

/-! ## The elements of rows -/

/-- The element of a value. -/
def valueElement (unit : String → Option String) (text : Value → String) (e : String × Value) :
    Xml :=
  .element "data" (("name", e.1) :: ((unit e.1).map fun u => ("units", u)).toList) (text e.2) []

/-- The element of a row. -/
def rowElement (unit : String → Option String) (columns : List String) (text : Value → String)
    (x : Row) : Xml :=
  .element "stationFeature" [("date", x.observation.time.isoText)] ""
    (.element "station" x.station "" [] :: (x.shown columns).map (valueElement unit text))

/-- The element of all rows. -/
def rootElement (unit : String → Option String) (columns : List String) (text : Value → String)
    (xs : List Row) : Xml :=
  .element "stationFeatureCollection" [] "" (xs.map (rowElement unit columns text))

section Elements

variable {unit : String → Option String} {columns : List String}

/-! ### Names -/

theorem proper_value (e : String × Value) :
    Xml.Proper (("name", e.1) :: ((unit e.1).map fun u => ("units", u)).toList) := by
  constructor
  · cases unit e.1 <;> simp <;> decide +kernel
  · cases unit e.1 <;> simp

theorem proper_station (x : Row) : Xml.Proper x.station := by
  rw [Row.station]
  constructor
  · cases x.altitude <;> simp <;> decide +kernel
  · cases x.altitude <;> simp

theorem proper_date (date : String) : Xml.Proper [("date", date)] :=
  ⟨by simp; decide +kernel, by simp⟩

theorem named_valueElement (text : Value → String) (e : String × Value) :
    Xml.Named (valueElement unit text e) :=
  .element (by decide +kernel) (proper_value e) (by simp)

theorem named_rowElement (text : Value → String) (x : Row) :
    Xml.Named (rowElement unit columns text x) := by
  have station : Xml.Named (.element "station" x.station "" []) :=
    .element (by decide +kernel) (proper_station x) (by simp)
  refine .element (by decide +kernel) (proper_date _) ?_
  rw [List.forall_mem_cons, List.forall_mem_map]
  exact ⟨station, fun e _ => named_valueElement text e⟩

theorem named_rootElement (text : Value → String) (xs : List Row) :
    Xml.Named (rootElement unit columns text xs) := by
  refine .element (by decide +kernel) ⟨by simp, by simp⟩ ?_
  rw [List.forall_mem_map]
  exact fun x _ => named_rowElement text x

/-! ### Characters -/

theorem lined_rowElement (x : Row) :
    Xml.lined (rowElement unit columns Value.shown x) =
      rowElement unit columns (fun v => Xml.withLineFeeds v.shown) x := by
  rw [rowElement, Xml.lined, Xml.linedAll_eq_map, List.map_cons, List.map_map]
  rfl

/-- In a document the ends of the lines of texts are line feeds. -/
theorem lined_rootElement (xs : List Row) :
    Xml.lined (rootElement unit columns Value.shown xs) =
      rootElement unit columns (fun v => Xml.withLineFeeds v.shown) xs := by
  rw [rootElement, Xml.lined, Xml.linedAll_eq_map, List.map_map]
  exact congrArg (Xml.element _ _ _) (List.map_congr_left fun x _ => lined_rowElement x)

theorem all_strings_valueElement (e : String × Value) :
    (Xml.strings (valueElement unit Value.shown e)).all Xml.allowed ↔
      Xml.allowed e.1 ∧ (∀ u ∈ unit e.1, Xml.allowed u) ∧ Xml.allowed e.2.shown := by
  rw [valueElement, Xml.strings]
  cases unit e.1 <;> simp

theorem all_strings_rowElement (x : Row) :
    (Xml.strings (rowElement unit columns Value.shown x)).all Xml.allowed ↔
      Allowed unit columns x := by
  have station : (Xml.strings (.element "station" x.station "" [])).all Xml.allowed =
      Xml.allowed x.name := by
    rw [Xml.all_strings rfl, Row.station]
    cases x.altitude <;>
      simp [Writer.coordinateText, Xml.allowed_fixed, Xml.allowed_general]
  rw [rowElement, Xml.all_strings rfl, List.all_cons, List.all_cons, station, List.all_map,
    Xml.allowed_isoText, List.all_nil, Bool.true_and, Bool.true_and, Bool.and_eq_true,
    List.all_eq_true]
  exact ⟨fun ⟨name, values⟩ => ⟨name, fun e m => (all_strings_valueElement e).1 (values e m)⟩,
    fun all => ⟨all.station, fun e m => (all_strings_valueElement e).2 (all.values e m)⟩⟩

theorem all_strings_rootElement (xs : List Row) :
    (Xml.strings (rootElement unit columns Value.shown xs)).all Xml.allowed ↔
      ∀ x ∈ xs, Allowed unit columns x := by
  rw [rootElement, Xml.all_strings rfl, List.all_map, List.all_nil, Bool.true_and,
    List.all_eq_true]
  exact forall₂_congr fun x _ => all_strings_rowElement x

/-! ### Nodes -/

theorem isValue_valueElement (text : Value → String) (e : String × Value) (depth : Nat) :
    IsValue e.1 (unit e.1) e.2.shown (Xml.toNode depth (valueElement unit text e)) ↔
      text e.2 = e.2.shown := by
  constructor
  · exact fun node => (Xml.content_toNode depth).symm.trans node.text
  · intro same
    constructor
    case tag => exact Xml.tag?_toNode depth
    case name =>
      exact (Xml.attribute?_toNode (proper_value e).distinct depth "name").trans (by simp)
    case unit =>
      refine (Xml.attribute?_toNode (proper_value e).distinct depth "units").trans ?_
      cases unit e.1 <;> rfl
    case text => exact (Xml.content_toNode depth).trans same

/-- The node of a row says what the row says exactly if its texts are those of its values. -/
theorem isRow_rowElement (text : Value → String) (x : Row) (depth : Nat) :
    IsRow unit columns x (Xml.toNode depth (rowElement unit columns text x)) ↔
      ∀ e ∈ x.shown columns, text e.2 = e.2.shown := by
  have elements : (Xml.toNode depth (rowElement unit columns text x)).elements =
      Xml.toNode (depth + 1) (.element "station" x.station "" []) ::
        (x.shown columns).map fun e => Xml.toNode (depth + 1) (valueElement unit text e) := by
    rw [rowElement, Xml.elements_toNode, List.map_cons, List.map_map]
    rfl
  have values : List.Forall₂ (fun e n => IsValue e.1 (unit e.1) e.2.shown n) (x.shown columns)
      ((x.shown columns).map fun e => Xml.toNode (depth + 1) (valueElement unit text e)) ↔
      ∀ e ∈ x.shown columns, text e.2 = e.2.shown := by
    rw [List.forall₂_map_right_iff, List.forall₂_same]
    exact forall₂_congr fun e _ => isValue_valueElement text e (depth + 1)
  constructor
  · intro node
    obtain ⟨station, nodes, found, -, -, each⟩ := node.inside
    rw [elements] at found
    obtain ⟨rfl, rfl⟩ := List.cons.inj found
    exact values.1 each
  · intro same
    constructor
    case tag => exact Xml.tag?_toNode depth
    case date => exact Xml.attribute?_toNode (proper_date _).distinct depth "date"
    case inside =>
      exact ⟨_, _, elements, Xml.tag?_toNode _,
        fun name => Xml.attribute?_toNode (proper_station x).distinct _ name, values.2 same⟩

/-- A document of rows is well-formed exactly if the strings in it are allowed. -/
theorem isSome_read_rootElement (xs : List Row) :
    (Xml.read (Xml.document (rootElement unit columns Value.shown xs))).isSome ↔
      ∀ x ∈ xs, Allowed unit columns x := by
  rw [Xml.read_document _ (named_rootElement _ xs), ← all_strings_rootElement]
  split
  · next all => exact iff_of_true rfl all
  · next some => exact iff_of_false Bool.false_ne_true some

/-- It has the strings of the rows if, besides, there is no carriage return in the texts of their
values. -/
theorem documents_rootElement (xs : List Row) :
    Documents unit columns xs (Xml.document (rootElement unit columns Value.shown xs)) ↔
      ∀ x ∈ xs, Allowed unit columns x ∧ ∀ e ∈ x.shown columns, '\r' ∉ e.2.shown.toList := by
  have rows (text : Value → String) :
      List.Forall₂ (IsRow unit columns) xs
        (Xml.toNode 0 (rootElement unit columns text xs)).elements ↔
      ∀ x ∈ xs, ∀ e ∈ x.shown columns, text e.2 = e.2.shown := by
    rw [rootElement, Xml.elements_toNode, List.map_map, List.forall₂_map_right_iff,
      List.forall₂_same]
    exact forall₂_congr fun x _ => isRow_rowElement text x 1
  rw [Documents, Xml.read_document _ (named_rootElement _ xs), lined_rootElement]
  constructor
  · rintro ⟨root, found, -, each⟩
    split at found
    · next all =>
      obtain rfl := Option.some.inj found
      have same := (rows _).1 each
      exact fun x member => ⟨(all_strings_rootElement xs).1 all x member,
        fun e value => Xml.withLineFeeds_eq_self_iff.1 (same x member e value)⟩
    · cases found
  · intro all
    have allowed := (all_strings_rootElement xs).2 fun x member => (all x member).1
    exact ⟨_, if_pos allowed, Xml.tag?_toNode 0, (rows _).2 fun x member e value =>
      Xml.withLineFeeds_eq_self_iff.2 ((all x member).2 e value)⟩

end Elements

/-! ## Responses -/

theorem featureElement_eq_rowElement (w : Writer) (s : Station) (o : Observation) :
    w.featureElement s o = rowElement w.unit? w.columns Value.shown (row s o) := by
  have values : dataWith w.unit? w.columns (row s o) =
      ((row s o).shown w.columns).map (valueElement w.unit? Value.shown) := by
    rw [dataWith, Row.shown, List.map_filterMap]
    exact List.filterMap_congr fun name _ => by rw [Option.map_map]; rfl
  rw [featureElement_eq, values]
  rfl

/-- An XML response that succeeds is the document of its rows. -/
theorem out_eq_document {cs : List Collection} {r : Request} {n : Nat}
    (made : (deliver { format := .xml } cs r).outcome.result = .ok n) :
    let w := (deliver { format := .xml } cs r).writer
    w.rows.length = n ∧
      w.out = Xml.document (rootElement (unitOf cs) w.columns Value.shown w.rows) := by
  intro w
  have supported : Format.xml ≠ .unspecified := by decide
  obtain ⟨p, ps, wanted, counted, all⟩ := handed_of_result supported made
  have rows : w.rows = rowsOf (p :: ps) := rows_of_handed supported wanted all
  have unit : w.unit? = unitOf cs := funext (unit?_deliver supported cs r)
  have features : (p :: ps).map (fun p => w.featureElement p.1 p.2) =
      w.rows.map (rowElement (unitOf cs) w.columns Value.shown) := by
    rw [rows, rowsOf, List.map_map, ← unit]
    exact List.map_congr_left fun p _ => featureElement_eq_rowElement w p.1 p.2
  refine ⟨by rw [rows, rowsOf, List.length_map, counted], ?_⟩
  rw [rootElement, ← features]
  exact (respond_xml_of_handed wanted all).2

/-- An XML response that succeeds has an element for each row.  It is made of characters that XML
allows, and is well-formed, exactly if the names, units and texts in it are made of such
characters; and a reader finds them as they are exactly if, besides, there is no carriage return in
the texts of values. -/
theorem respond_xml_documents {cs : List Collection} {r : Request} {format : String} {n : Nat}
    (xml : Format.ofName format = .ok .xml)
    (made : (respond cs r format).outcome.result = .ok n) :
    let w := (respond cs r format).writer
    w.rows.length = n ∧
      (Xml.allowed w.out ↔ ∀ x ∈ w.rows, Allowed (unitOf cs) w.columns x) ∧
      ((Xml.read w.out).isSome ↔ ∀ x ∈ w.rows, Allowed (unitOf cs) w.columns x) ∧
      (Documents (unitOf cs) w.columns w.rows w.out ↔ ∀ x ∈ w.rows,
        Allowed (unitOf cs) w.columns x ∧
          ∀ e ∈ x.shown w.columns, '\r' ∉ e.2.shown.toList) := by
  have delivered : respond cs r format = deliver { format := .xml } cs r := by
    simp only [respond, xml]
  rw [delivered] at made ⊢
  intro w
  obtain ⟨counted, out⟩ := out_eq_document made
  refine ⟨counted, ?_, ?_, ?_⟩
  · rw [show w.out = _ from out, Xml.allowed_document _ (named_rootElement _ _)]
    exact all_strings_rootElement w.rows
  · rw [show w.out = _ from out]
    exact isSome_read_rootElement w.rows
  · rw [show w.out = _ from out]
    exact documents_rootElement w.rows

/-- A station with a remark instead of a measurement. -/
def remarked (remark : String) : Collection :=
  { name := "synop"
    stations := [{ name := "A\t<1>", lat := 1.0, lon := 2.0, observations := [
      ⟨⟨0⟩, .ofList [("remark", .string remark)]⟩] }]
    vars := .ofList [("remark", some "\"text\"")] }

/-- The row of the remark. -/
def remarkRow (remark : String) : Row :=
  ⟨"A\t<1>", 1.0, 2.0, none, ⟨⟨0⟩, .ofList [("remark", .string remark)]⟩⟩

theorem respond_remarked (remark : String) :
    let d := respond [remarked remark] {} "xml"
    d.outcome.result = .ok 1 ∧ d.writer.rows = [remarkRow remark] ∧
      d.writer.columns = ["remark"] := ⟨rfl, rfl, rfl⟩

theorem respond_xml_documents_escaped :
    Format.ofName "xml" = .ok .xml ∧
      (respond [remarked "5 < 6\n& ]]> "] {} "xml").outcome.result = .ok 1 ∧
      let w := (respond [remarked "5 < 6\n& ]]> "] {} "xml").writer
      Documents (unitOf [remarked "5 < 6\n& ]]> "]) w.columns w.rows w.out := by
  obtain ⟨made, rows, columns⟩ := respond_remarked "5 < 6\n& ]]> "
  refine ⟨rfl, made, ((respond_xml_documents rfl made).2.2.2).2 ?_⟩
  rw [rows, columns, List.forall_mem_singleton]
  have text : Xml.allowed "5 < 6\n& ]]> " := by decide +kernel
  have unit : ∀ u ∈ unitOf [remarked "5 < 6\n& ]]> "] "remark", Xml.allowed u := by
    intro u declared
    obtain rfl : "\"text\"" = u := Option.some.inj declared
    decide +kernel
  refine ⟨⟨by decide +kernel, ?_⟩, ?_⟩
  · exact List.forall_mem_singleton.2 ⟨by decide +kernel, unit, text⟩
  · exact List.forall_mem_singleton.2 (by decide +kernel)

/-- A carriage return in a text does not come back. -/
theorem not_documents_return :
    let d := respond [remarked "wind\rrain"] {} "xml"
    d.outcome.result = .ok 1 ∧
      ¬Documents (unitOf [remarked "wind\rrain"]) d.writer.columns d.writer.rows d.writer.out := by
  intro d
  obtain ⟨made, rows, -⟩ := respond_remarked "wind\rrain"
  have out : d.writer.out = Xml.document (rootElement _ d.writer.columns Value.shown
    d.writer.rows) := (out_eq_document made).2
  refine ⟨made, fun found => ?_⟩
  rw [out, documents_rootElement, rows, List.forall_mem_singleton] at found
  exact found.2 ("remark", .string "wind\rrain") (List.mem_singleton_self _) (by decide +kernel)

/-- A document with a control character in it is not well-formed. -/
theorem read_control :
    let d := respond [remarked "wind\x07"] {} "xml"
    d.outcome.result = .ok 1 ∧ Xml.read d.writer.out = none := by
  intro d
  obtain ⟨made, rows, -⟩ := respond_remarked "wind\x07"
  have out : d.writer.out = Xml.document (rootElement _ d.writer.columns Value.shown
    d.writer.rows) := (out_eq_document made).2
  refine ⟨made, ?_⟩
  rw [← Option.not_isSome_iff_eq_none, out, isSome_read_rootElement, rows,
    List.forall_mem_singleton]
  intro all
  have text := (all.values ("remark", .string "wind\x07") (List.mem_singleton_self _)).2.2
  exact absurd text (by decide +kernel)

end Meteo.Response
