/-
# Meteo.Response.Writer -- writing observations of stations

A writer receives calls: a header before the first observation, an observation of
a station, and a footer.  What it does with a call depends on its format.  In CSV
the header names the columns with their units and every observation is a record;
in XML the header only fixes the columns, every observation becomes an element, and
the footer writes the document with all of them.  A writer without a format refuses
every call.

The columns are the variables the writer was made for, or else those of the first
observation.  The writer keeps the calls it has answered.

A writer refuses an observation if a value in one of the columns has no text.  What it has
written before stays: an `Attempt` is the writer as it was left, and what came of it.  In CSV
nothing of the refused observation is written; in XML its element has been begun.
-/
import Meteo.Response.Csv
import Meteo.Response.Xml
import Meteo.Station.Basic

namespace Meteo.Response

set_option autoImplicit false

inductive Format where
  | csv
  | xml
  | unspecified
  deriving Repr, DecidableEq, Inhabited

inductive HeaderState where
  | notStarted
  | written
  deriving Repr, DecidableEq, Inhabited

def HeaderState.text : HeaderState → String
  | notStarted => "not_started"
  | written => "header_written"

inductive Call where
  | header (first : Observation)
  | observation (station : Station) (o : Observation)
  | footer
  deriving Inhabited

structure Writer where
  format : Format
  vars : Option (List String) := none
  units : Table (Option String) := .empty
  columns : List String := []
  elements : List Xml := []
  out : String := ""
  calls : List Call := []

namespace Writer

/-- The unit of a variable, if it has one that is not empty. -/
def unit? (w : Writer) (name : String) : Option String :=
  ((w.units.get? name).join).filter fun u => !u.isEmpty

def label (name : String) (unit : Option String) : String :=
  match unit with
  | some u => name ++ "[unit=\"" ++ u ++ "\"]"
  | none => name

def columnsFor (w : Writer) (first : Observation) : List String :=
  w.vars.getD first.values.names

/-- A coordinate as responses show it, with three places. -/
def coordinateText (x : Float) : String := Double.fixed 3 x

def headerFields (w : Writer) : List String :=
  ["time", "station", label "latitude" (some "degrees_north"),
    label "longitude" (some "degrees_east")] ++ w.columns.map fun name => label name (w.unit? name)

def fields (w : Writer) (s : Station) (o : Observation) : List String :=
  [o.time.isoText, s.name, coordinateText s.lat, coordinateText s.lon] ++
    w.columns.map fun name => ((o.values.get? name).map Csv.valueText).getD ""

def stationAttributes (s : Station) : List (String × String) :=
  [("name", s.name), ("latitude", coordinateText s.lat), ("longitude", coordinateText s.lon)] ++
    (s.altitude.map fun a => ("altitude", Double.general a)).toList

def dataElement (w : Writer) (name text : String) : Xml :=
  .element "data" (("name", name) :: ((w.unit? name).map fun u => ("units", u)).toList) text []

def elementOf (s : Station) (o : Observation) (data : List Xml) : Xml :=
  .element "stationFeature" [("date", o.time.isoText)] ""
    (.element "station" (stationAttributes s) "" [] :: data)

/-- The elements of the values that an observation has in the columns. -/
def dataElements (w : Writer) (o : Observation) : List Xml :=
  w.columns.filterMap fun name => (o.values.get? name).map fun v => w.dataElement name v.shown

def featureElement (w : Writer) (s : Station) (o : Observation) : Xml :=
  elementOf s o (w.dataElements o)

/-- The elements up to the one that waits for the text of a value without one. -/
def begunElements (w : Writer) (o : Observation) : List Xml :=
  let values := w.columns.filterMap fun name => (o.values.get? name).map fun v => (name, v)
  let written := values.takeWhile fun e => e.2.hasText
  (values.take (written.length + 1)).map fun e =>
    w.dataElement e.1 (if e.2.hasText then e.2.shown else "")

def documentText (w : Writer) : String :=
  Xml.document (.element "stationFeatureCollection" [] "" w.elements)

end Writer

/-- Whether all values that an observation has in these columns have texts. -/
def hasTexts (columns : List String) (o : Observation) : Bool :=
  columns.all fun name => (o.values.get? name).all Value.hasText

/-- A writer as it was left, and what came of using it. -/
structure Attempt (α : Type) where
  writer : Writer
  result : Except Error α

namespace Attempt

variable {α β : Type}

def done (w : Writer) (a : α) : Attempt α := ⟨w, .ok a⟩

def refused (w : Writer) (e : Error) : Attempt α := ⟨w, .error e⟩

/-- Goes on with the writer unless it has refused something. -/
def andThen (a : Attempt α) (f : Writer → α → Attempt β) : Attempt β :=
  match a.result with
  | .ok x => f a.writer x
  | .error e => refused a.writer e

end Attempt

namespace Writer

open Attempt

/-- The effect of a call, which a format must be there to define. -/
def effect (w : Writer) : Call → Attempt Unit
  | .header first =>
      let titled := { w with columns := w.columnsFor first }
      match w.format with
      | .csv => done { titled with out := w.out ++ Csv.joined titled.headerFields } ()
      | .xml => done titled ()
      | .unspecified => refused w .unsupported
  | .observation s o =>
      match w.format with
      | .csv =>
          if hasTexts w.columns o then
            done { w with out := w.out ++ Csv.record (w.fields s o) } ()
          else refused w (.fault .badValue)
      | .xml =>
          if hasTexts w.columns o then
            done { w with elements := w.elements ++ [w.featureElement s o] } ()
          else
            refused { w with elements := w.elements ++ [elementOf s o (w.begunElements o)] }
              (.fault .badValue)
      | .unspecified => refused w .unsupported
  | .footer =>
      match w.format with
      | .csv => done w ()
      | .xml => done { w with out := w.out ++ w.documentText } ()
      | .unspecified => refused w .unsupported

def attempt (w : Writer) (call : Call) : Attempt Unit :=
  (w.effect call).andThen fun w _ => done { w with calls := w.calls ++ [call] } ()

def perform (w : Writer) (call : Call) : Except Error Writer :=
  let a := w.attempt call
  a.result.map fun _ => a.writer

/-- Writes the header before the first observation, unless it has been written. -/
def begin (w : Writer) (state : HeaderState) (first : Observation) : Attempt Unit :=
  match state with
  | .notStarted => w.attempt (.header first)
  | .written => done w ()

/-- Writes observations as those of a station, and goes on with the number of observations
written. -/
def writeFrom (w : Writer) (state : HeaderState) (count : Nat) (s : Station) :
    List Observation → Attempt (HeaderState × Nat)
  | [] => done w (state, count)
  | o :: os =>
      (w.begin state o).andThen fun w _ =>
        (w.attempt (.observation s o)).andThen fun w _ =>
          w.writeFrom .written (count + 1) s os

def writeStation (w : Writer) (state : HeaderState) (s : Station) :
    Except Error (Writer × HeaderState × Nat) :=
  let a := w.writeFrom state 0 s s.observations
  a.result.map fun r => (a.writer, r)

end Writer

end Meteo.Response
