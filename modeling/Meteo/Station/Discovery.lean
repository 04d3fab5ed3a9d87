/-
# Meteo.Station.Discovery -- which variables of a dataset describe stations

A dataset of time series says in its metadata which dimension runs over the
stations, which variables hold their places, and which one the times.  A variable
that identifies the stations, by its role, fixes the dimension; otherwise the
dimension is called `station`.  A place is found by standard name, then by units,
then by name, among the variables along that dimension alone.  Times run along a
single dimension for all stations, or along the stations and a second one.
-/
import Meteo.Axis.Kind
import Meteo.Dataset.Basic
import Meteo.Station.FeatureKind

namespace Meteo

set_option autoImplicit false

/-- Why a dataset is no collection of stations. -/
inductive LoadIssue where
  | kind (problem : Problem)
  | noStationDimension
  | noLocation (dim : String)
  | noTime
  | timeLayout (dims : List String) (dim : String)
  | notTimes (name : String)
  /-- The times run along the stations twice, and along nothing else. -/
  | noOtherDimension
  deriving Inhabited

/-- Names between parentheses and quotes; a single one has a comma behind it. -/
def quotedTuple : List String → String
  | [name] => "(" ++ Text.quoted name ++ ",)"
  | names => "(" ++ ", ".intercalate (names.map Text.quoted) ++ ")"

namespace LoadIssue

/-- The sentence for an issue; a missing second dimension has none. -/
def text : LoadIssue → String
  | noOtherDimension => ""
  | kind problem => problem.text
  | noStationDimension => "No variable with cf_role=timeseries_id and no 'station' dimension"
  | noLocation dim => "Station latitude/longitude variables along '" ++ dim ++ "' not found"
  | noTime => "No time coordinate found"
  | timeLayout dims dim =>
      "Unsupported time layout " ++ quotedTuple dims ++ " for station dimension '" ++ dim ++ "'"
  | notTimes name => "Time variable '" ++ name ++ "' is not decoded to datetimes"

def error : LoadIssue → Error
  | noOtherDimension => .fault .exhausted
  | i => .processing .stationLoading (some i.text)

end LoadIssue

namespace Discovery

open Convention

def stationDim : String := "station"

def identity? (ds : Dataset) : Option (String × Variable) :=
  ds.vars.entries.find? fun e =>
    match e.2.attributes.get? "cf_role" with
    | some (.string role) => role = "timeseries_id"
    | _ => false

def stationDimOf (ds : Dataset) (identity : Option (String × Variable)) : Except LoadIssue String :=
  match identity.bind fun e => e.2.dims.head? with
  | some dim => .ok dim
  | none => if (ds.sizeOf? stationDim).isSome then .ok stationDim else .error .noStationDimension

/-- The first variable along the stations alone with this standard name, or with one of these
units, or with one of these names. -/
def stationVariable? (ds : Dataset) (dim standardName : String) (names units : List String) :
    Option (String × Variable) :=
  let candidates := ds.vars.entries.filter fun e => e.2.dims = [dim]
  let lowered (v : Variable) (key : String) := Text.lower (attributeText v.attributes key)
  (candidates.find? fun e => lowered e.2 "standard_name" = standardName).orElse fun _ =>
    (candidates.find? fun e => units.contains (lowered e.2 "units")).orElse fun _ =>
      candidates.find? fun e => names.contains (Text.lower e.1)

def timeVariable (ds : Dataset) : Except LoadIssue (String × Variable) :=
  let entries := ds.vars.entries
  let declared := entries.find? fun e =>
    Text.lower (attributeText e.2.attributes "standard_name") = "time" ||
      Text.upper (attributeText e.2.attributes "axis") = "T"
  let named := entries.find? fun e => timeNames.contains (Text.lower e.1) && e.2.cells.isTime
  match declared.orElse fun _ => named with
  | some e => .ok e
  | none => .error .noTime

def obsDimOf (time : Variable) (dim : String) : Except LoadIssue String :=
  match time.dims with
  | [d] => .ok d
  | [d, e] =>
      if d = dim && e = dim then .error .noOtherDimension
      else if d = dim then .ok e
      else if e = dim then .ok d
      else .error (.timeLayout time.dims dim)
  | dims => .error (.timeLayout dims dim)

end Discovery

structure StationParts where
  kind : FeatureKind
  stationDim : String
  obsDim : String
  identity : Option (String × Variable)
  lat : String × Variable
  lon : String × Variable
  alt : Option (String × Variable)
  time : String × Variable

namespace StationParts

open Convention Discovery

/-- The kind of the collection: the one that the caller knows, or else the one declared. -/
def kindOf (ds : Dataset) : Option FeatureKind → Except LoadIssue FeatureKind
  | some k => .ok k
  | none =>
      let declared := (ds.attributes.get? "featureType").getD .null
      (FeatureKind.ofDeclared declared).mapError LoadIssue.kind

/-- Finds the parts.  `kind` is the kind of the collection if the caller knows it. -/
def find (ds : Dataset) (kind : Option FeatureKind) : Except LoadIssue StationParts := do
  let kind ← kindOf ds kind
  let identity := identity? ds
  let dim ← stationDimOf ds identity
  let lat := stationVariable? ds dim "latitude" latNames latUnits
  let lon := stationVariable? ds dim "longitude" lonNames lonUnits
  let alt := stationVariable? ds dim "altitude" altNames []
  match lat, lon with
  | some lat, some lon => do
      let time ← timeVariable ds
      let obsDim ← obsDimOf time.2 dim
      if time.2.cells.isTime then
        return { kind, stationDim := dim, obsDim, identity, lat, lon, alt, time }
      else .error (.notTimes time.1)
  | _, _ => .error (.noLocation dim)

def reserved (p : StationParts) : List String :=
  [p.lat.1, p.lon.1, p.time.1] ++ (p.alt.map Prod.fst).toList ++ (p.identity.map Prod.fst).toList

/-- Whether the dimensions of a variable are those of the stations and of the observations. -/
def spans (p : StationParts) (v : Variable) : Bool :=
  v.dims.all (fun d => d = p.stationDim || d = p.obsDim) &&
    v.dims.contains p.stationDim && v.dims.contains p.obsDim

/-- The observed variables: all data along the stations and the observations. -/
def observed (p : StationParts) (ds : Dataset) : List (String × Variable) :=
  ds.dataVariables.filter fun e => !p.reserved.contains e.1 && p.spans e.2

def stationCount (p : StationParts) (ds : Dataset) : Nat := (ds.sizeOf? p.stationDim).getD 0

/-- The number of observations of a station, padding included. -/
def obsCount (p : StationParts) : Nat := (p.time.2.sizeOf? p.obsDim).getD 0

/-- The indices of an observation of a station by dimension. -/
def index (p : StationParts) (i j : Nat) : List (String × Nat) := [(p.obsDim, j), (p.stationDim, i)]

/-- The cell of a variable for an observation of a station.  The two may run along one dimension, so
a variable with a row for each station is not read by the names of its dimensions. -/
def cellAt? (p : StationParts) (v : Variable) (i j : Nat) : Option Cell :=
  if v.dims = [p.stationDim, p.obsDim] then v.cells.block.get? [i, j]
  else v.cellAt? (p.index i j)

/-- The time of an observation of a station, if it is not missing. -/
def timeAt? (p : StationParts) (i j : Nat) : Option Time.Instant :=
  (p.cellAt? p.time.2 i j).bind Cell.time?

end StationParts

end Meteo
