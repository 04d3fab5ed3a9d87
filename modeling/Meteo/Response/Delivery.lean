/-
# Meteo.Response.Delivery -- a whole response

The selected stations are restricted to the time range one after the other and
written as they come, of a wanted instant only the closest observation, so that a
response of any size needs no room for all of it.  The header
precedes the first observation and the footer follows the last one.  A response
without observations is a failure, and so is one with a value that has no text; what has
been written before that value stays written.

The outcome belongs to a writer in any case: a `Delivery` is the writer as it was
left, and the number of observations or the failure.
-/
import Meteo.Response.Writer
import Meteo.Station.Subset

namespace Meteo.Response

set_option autoImplicit false

def source : String := "geosubset.io.writers"

/-- A writer, and what came of the last attempt to use it. -/
structure Delivery (α : Type) where
  writer : Writer
  outcome : Logged α

namespace Delivery

variable {α : Type}

/-- What a step did, behind the reports made before. -/
def after (entries : List Log.Entry) (d : Delivery α) : Delivery α :=
  { d with outcome := { d.outcome with entries := entries ++ d.outcome.entries } }

def failed (w : Writer) (e : Error) : Delivery α := ⟨w, Logged.fail e⟩

/-- Writes the observations of a station, or of the view of it at the wanted instant. -/
def writeSeen (r : Request) (w : Writer) (state : HeaderState) (s : Station) :
    Attempt (HeaderState × Nat) :=
  match r.time with
  | none => w.writeFrom state 0 s s.observations
  | some t =>
      match ClosestView.ofGiven s t with
      | .error e => .refused w e
      | .ok v => w.writeFrom state 0 v.station v.observations

/-- Restricts stations in time and writes their observations, and goes on with the number of
observations written. -/
def writeAll (r : Request) (w : Writer) (state : HeaderState) (count : Nat) :
    List Station → Delivery Nat
  | [] => ⟨w, pure count⟩
  | s :: ss =>
      let kept := Temporal.inRange s r.timeRange
      after kept.entries <|
        match kept.result with
        | .error e => failed w e
        | .ok s =>
            let seen := writeSeen r w state s
            match seen.result with
            | .error e => failed seen.writer e
            | .ok (state, n) => writeAll r seen.writer state (count + n) ss

end Delivery

/-- The variables of a response: those of the request, or those that the collections of the
requested kind declare; none if they declare none. -/
def variablesFor (cs : List Collection) (r : Request) : Option (List String) :=
  match r.vars with
  | some names => some names
  | none =>
      let declared := (cs.filter fun c => c.kind = r.kind).flatMap fun c => c.vars.names
      if declared.isEmpty then none else some declared.eraseDups

/-- The units of the writer, and those that the collections declare for other variables. -/
def unitsFor (units : Table (Option String)) (cs : List Collection) : Table (Option String) :=
  (cs.flatMap fun c => c.vars.entries).foldl (fun t e => t.insertNew e.1 e.2) units

def prepared (w : Writer) (cs : List Collection) (r : Request) : Writer :=
  { w with
    vars := w.vars.orElse fun _ => variablesFor cs r
    units := unitsFor w.units cs }

def finish (r : Request) (stations : Nat) (w : Writer) (count : Nat) : Delivery Nat :=
  if count = 0 then .failed w (Subset.emptyError r)
  else
    match w.perform .footer with
    | .error e => .failed w e
    | .ok w => ⟨w, do
        Logged.report Log.Level.info source
          ("Wrote " ++ Decimal.digitText count ++ " observations from " ++
            Decimal.digitText stations ++ " stations")
        return count⟩

/-- Ends a response unless the writing of its observations has failed. -/
def conclude (r : Request) (stations : Nat) (written : Delivery Nat) : Delivery Nat :=
  match written.outcome.result with
  | .error _ => written
  | .ok count =>
      Delivery.after written.outcome.entries (finish r stations written.writer count)

def deliver (w : Writer) (cs : List Collection) (r : Request) : Delivery Nat :=
  let w := prepared w cs r
  let selected := select cs r
  Delivery.after selected.entries <|
    match selected.result with
    | .error e => .failed w e
    | .ok stations =>
        conclude r stations.length (Delivery.writeAll r w .notStarted 0 stations)

def Format.named : List (String × Format) := [("csv", .csv), ("xml", .xml)]

def Format.ofName (name : String) : Except Error Format :=
  match Format.named.lookup (Text.lower name) with
  | some f => .ok f
  | none => .error (Error.unknownFormat name (Format.named.map Prod.fst))

/-- A response to a request in the format of this name, and the number of its observations. -/
def respond (cs : List Collection) (r : Request) (format : String) : Delivery Nat :=
  match Format.ofName format with
  | .error e => .failed ⟨.unspecified, none, .empty, [], [], "", []⟩ e
  | .ok f => deliver { format := f } cs r

end Meteo.Response
