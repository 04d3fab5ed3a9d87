/-
# Meteo.Station.Loading -- collections of stations from datasets

Every cell along the stations and the observations belongs to one station and one
time.  A cell without a time is padding; a missing cell leaves its variable out of
the observation; the observations of a station are ordered by time, those of equal
time as they were stored.

Numbers and texts are kept as they are.  Bytes stored in cells of fixed length stay
bytes; bytes among arbitrary values are read as text.
-/
import Meteo.Cells.Text
import Meteo.Log
import Meteo.Station.Basic
import Meteo.Station.Discovery
import Meteo.Text.Utf8

namespace Meteo

set_option autoImplicit false

namespace Loading

open Time

def source : String := "geosubset.io.feature_loader"

def bytesText (bs : List UInt8) : String := Text.strip (Text.ofUtf8 bs)

def nameOf (type : CellType) : Cell → String
  | .value (.bytes bs) => bytesText bs
  | c => Text.strip (c.shown type)

def valueOf (type : CellType) (c : Cell) : Value :=
  match type, c with
  | .value, .value (.bytes bs) => .string (bytesText bs)
  | _, c => c.toValue

/-- The number of a cell that may not be missing. -/
def numberOf : Cell → Except Fault Float
  | .value .null | .value (.list _) => .error .badKind
  | c => c.toDouble

def numberAt (v : Variable) (i : Nat) : Except Fault Float :=
  match v.cells.block.cells[i]? with
  | some c => numberOf c
  | none => .error .badIndex

/-- The number of a station in a variable, if it is not missing. -/
def numberAt? (v : Variable) (i : Nat) : Except Fault (Option Float) :=
  match v.cells.block.cells[i]? with
  | some c => if c.isMissing then .ok none else (numberOf c).map some
  | none => .error .badIndex

/-- The names in a variable: of one that has further dimensions, the cells of a row in brackets. -/
def namesIn (v : Variable) : Except Fault (List String) :=
  match v.cells.shape with
  | [] => .error .badKind
  | [_] => .ok (v.cells.block.cells.toList.map (nameOf v.cells.type))
  | n :: _ => .ok ((List.range n).map fun i => Text.strip (v.cells.rowText i))

def names (ds : Dataset) (p : StationParts) : Except Fault (List String) :=
  match p.identity with
  | some (_, v) => namesIn v
  | none =>
      match ds.vars.get? p.stationDim with
      | some v =>
          if ds.isCoordinate p.stationDim then namesIn v else .ok numbered
      | none => .ok numbered
where
  /-- Names by number, for stations without any. -/
  numbered : List String :=
    (List.range (p.stationCount ds)).map fun i => "station_" ++ Decimal.digitText i

/-- What a cell reports under a name, unless it is missing. -/
def reportOf (name : String) (type : CellType) (c : Cell) : Option (String × Value) :=
  if c.isMissing then none else some (name, valueOf type c)

def valuesAt (p : StationParts) (observed : List (String × Variable)) (i j : Nat) : Table Value :=
  Table.ofList (observed.filterMap fun e =>
    (p.cellAt? e.2 i j).bind (reportOf e.1 e.2.cells.type))

def storedObservations (p : StationParts) (observed : List (String × Variable)) (i : Nat) :
    List Observation :=
  (List.range p.obsCount).filterMap fun j =>
    (p.timeAt? i j).map fun t => ⟨t, valuesAt p observed i j⟩

def inOrder (o q : Observation) : Bool := !q.time.lt o.time

/-- The altitude of a station, if one is stored that is not missing. -/
def altitudeAt (p : StationParts) (i : Nat) : Except Fault (Option Float) :=
  match p.alt with
  | some e => numberAt? e.2 i
  | none => .ok none

/-- A station with its observations in the order of time. -/
def station (p : StationParts) (observed : List (String × Variable)) (names : List String)
    (i : Nat) : Except Fault Station := do
  let altitude ← altitudeAt p i
  match names[i]? with
  | none => .error .badIndex
  | some name => do
      let lat ← numberAt p.lat.2 i
      let lon ← numberAt p.lon.2 i
      return { name, lat, lon, altitude
               observations := (storedObservations p observed i).mergeSort inOrder }

def unitOf (v : Variable) : Option String :=
  match v.attributes.get? "units" with
  | none | some .null => none
  | some u => some u.shown

/-- The name of a collection: the one given, or else the title or the path of the dataset. -/
def collectionName (ds : Dataset) (given : Option String) : String :=
  match given.filter fun n => !n.isEmpty with
  | some n => n
  | none =>
      match (ds.attributes.get? "title").filter Value.isGiven with
      | some title => title.shown
      | none => ds.sourceText

/-- Whether a variable that runs along the stations and the observations has more or fewer
dimensions than these two: it has one of them several times, or they are one. -/
def isUneven (p : StationParts) (v : Variable) : Bool := p.spans v && v.dims.length ≠ 2

/-- Whether what is observed can be laid out by station and observation.  The coordinates along the
same dimensions are laid out with it. -/
def isLaidOut (ds : Dataset) (p : StationParts) : Bool :=
  (p.observed ds).isEmpty ||
    (p.observed ds ++ ds.coordinates).all fun e => !isUneven p e.2

def stations (ds : Dataset) (p : StationParts) : Except Fault (List Station) := do
  let names ← names ds p
  if isLaidOut ds p then
    (List.range (p.stationCount ds)).mapM (station p (p.observed ds) names)
  else .error .badValue

end Loading

/-- The collection of stations in a dataset.  The name and the kind are those that the caller
gives, or else those that the dataset declares. -/
def Collection.ofDataset (ds : Dataset) (name : Option String) (kind : Option FeatureKind) :
    Logged Collection := do
  let p ← Logged.lift ((StationParts.find ds kind).mapError LoadIssue.error)
  let stations ← Logged.lift ((Loading.stations ds p).mapError Error.fault)
  let observed := p.observed ds
  let name := Loading.collectionName ds name
  Logged.report Log.Level.info Loading.source
    ("Loaded " ++ Decimal.digitText stations.length ++ " stations with " ++
      Decimal.digitText observed.length ++ " variables from " ++ Dataset.shownName name)
  return { name, kind := p.kind, stations
           vars := Table.ofList (observed.map fun (name, v) => (name, Loading.unitOf v)) }

end Meteo
