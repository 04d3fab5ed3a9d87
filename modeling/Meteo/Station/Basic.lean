/-
# Meteo.Station.Basic -- stations, their observations, and collections of stations

An observation has a time and the values observed then; a value that was not
observed is absent.  A station has a name, a place and a series of observations.
A collection has stations in order, a kind, and the variables it declares with
their units.  Names of stations may repeat in a collection; the first station of a
name is the one that the name finds.
-/
import Meteo.Globe.Position
import Meteo.Station.FeatureKind
import Meteo.Table
import Meteo.Time.Instant

namespace Meteo

set_option autoImplicit false

open Time

structure Observation where
  time : Instant
  values : Table Value
  deriving Inhabited

namespace Observation

def hasVariables (o : Observation) (names : List String) : Bool := names.all o.values.contains

end Observation

structure Station where
  name : String
  lat : Float
  lon : Float
  observations : List Observation := []
  altitude : Option Float := none
  description : Option String := none
  wmoId : Option String := none
  deriving Inhabited

namespace Station

/-- The place of the station, if it is a point on the globe. -/
def location (s : Station) : Except (PositionIssue Float) (Point Float) :=
  Point.ofDegrees s.lat s.lon

def hasVariables (s : Station) (names : List String) : Bool :=
  s.observations.all fun o => o.hasVariables names

end Station

structure Collection where
  name : String
  kind : FeatureKind := .station
  stations : List Station := []
  vars : Table (Option String) := .empty
  deriving Inhabited

namespace Collection

def find? (c : Collection) (name : String) : Option Station :=
  c.stations.find? fun s => s.name == name

/-- The stations under their names, the first of each name. -/
def byName (c : Collection) : Table Station :=
  c.stations.foldl (fun t s => t.insertNew s.name s) .empty

/-- Looks names up one after the other, passing over the names in `seen`. -/
def pickFrom (t : Table Station) (seen : List String) : List String → List Station
  | [] => []
  | name :: names =>
      if seen.contains name then pickFrom t seen names
      else (t.get? name).toList ++ pickFrom t (name :: seen) names

/-- The stations of these names in the order of the names.  Repeated names and names without a
station give nothing. -/
def pick (c : Collection) (names : List String) : List Station := pickFrom c.byName [] names

def inBox (c : Collection) (b : Box Float) : List Station :=
  c.stations.filter fun s => b.contains s.lat s.lon

end Collection

end Meteo
