/-
# Meteo.Station.Request -- what is wanted of the stations

A request selects stations by at most one criterion: a list of names, a box, the
nearest to a point, or none.  If several are given the list wins over the box and
the box over the point, and a warning says so.  Further it may limit the times to
a range, ask for the observation closest to an instant, and name the variables.
-/
import Meteo.Criterion
import Meteo.Station.Basic
import Meteo.Time.Range

namespace Meteo

set_option autoImplicit false

open Time

inductive Selector where
  | stations
  | box
  | point
  | all
  deriving Repr, DecidableEq, Inhabited

def Selector.text : Selector → String
  | stations => "stations"
  | box => "bbox"
  | point => "point"
  | all => "all"

structure Request where
  stations : Option (List String) := none
  box : Option (Box Float) := none
  point : Option (Point Float) := none
  timeRange : Option (List Given) := none
  time : Option Given := none
  vars : Option (List String) := none
  kind : FeatureKind := .station
  requireVariables : Bool := false
  vertical : Option Value := none
  deriving Inhabited

namespace Request

/-- Refuses an empty list of stations, and a time range without two ends. -/
def check (r : Request) : Except Problem Request :=
  if r.stations = some [] then .error .noStationNames
  else if r.timeRange.any fun ts => ts.length ≠ 2 then .error .timeRangeLength
  else .ok r

/-- The names of the criteria that are given, the first one in effect. -/
def given (r : Request) : List String :=
  (if r.stations.isSome then ["stations"] else []) ++
    (if r.box.isSome then ["bounding_box"] else []) ++ (if r.point.isSome then ["point"] else [])

def warnings (r : Request) : List String :=
  match r.given with
  | first :: second :: rest =>
      ["Multiple spatial selections specified (" ++ ", ".intercalate (first :: second :: rest) ++
        "). Using " ++ first ++ "."]
  | _ => []

def selector (r : Request) : Selector :=
  if r.stations.isSome then .stations
  else if r.box.isSome then .box
  else if r.point.isSome then .point
  else .all

/-- The name that stands for all stations when it is the only one. -/
def allStations : String := "all"

def isAllStations (r : Request) : Bool := r.stations = some [allStations]

def hasTimeSelection (r : Request) : Bool := r.timeRange.isSome || r.time.isSome

def gridSubset (r : Request) : List (String × String) :=
  (r.vertical.map fun v => (Criterion.verticalKey, v.shown)).toList

end Request

end Meteo
