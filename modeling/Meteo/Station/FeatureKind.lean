/-
# Meteo.Station.FeatureKind -- the kinds of discrete sampling

A collection of observations is declared to be of points, of fixed stations, of
profiles and so on.  The declaration is read without regard to case and to white
space around it; a collection that declares nothing holds stations.
-/
import Meteo.Error
import Meteo.Text.Blank
import Meteo.Text.Case
import Meteo.Value

namespace Meteo

set_option autoImplicit false

inductive FeatureKind where
  | point
  | station
  | profile
  | stationProfile
  | trajectory
  deriving Repr, DecidableEq, Inhabited

namespace FeatureKind

def all : List FeatureKind := [point, station, profile, stationProfile, trajectory]

def text : FeatureKind → String
  | point => "point"
  | station => "timeSeries"
  | profile => "profile"
  | stationProfile => "timeSeriesProfile"
  | trajectory => "trajectory"

def hasStations : FeatureKind → Bool
  | station | stationProfile => true
  | _ => false

def ofDeclared (v : Value) : Except Problem FeatureKind :=
  match v with
  | .null => .ok station
  | v =>
      let wanted := Text.lower (Text.strip v.shown)
      match all.find? fun k => Text.lower k.text = wanted with
      | some k => .ok k
      | none => .error (.unknownFeatureType v.shown)

end FeatureKind

end Meteo
