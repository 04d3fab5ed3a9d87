/-
# Meteo.Axis.Kind -- what the positions along an axis mean

An axis runs along time, latitude, height and so on.  The kind is inferred from
the metadata of the coordinate: the `axis` attribute decides, then the standard
name, the units, the `positive` attribute, stored times, and last the name of the
coordinate.
-/
import Meteo.Table
import Meteo.Value
import Meteo.Text.Blank
import Meteo.Text.Case

namespace Meteo

set_option autoImplicit false

/-- What the positions along an axis mean. -/
inductive AxisKind where
  | runTime
  | ensemble
  | time
  | geoX
  | geoY
  | geoZ
  | lat
  | lon
  | height
  | pressure
  deriving Repr, DecidableEq, Inhabited

namespace AxisKind

def all : List AxisKind :=
  [runTime, ensemble, time, geoX, geoY, geoZ, lat, lon, height, pressure]

def text : AxisKind → String
  | runTime => "RunTime"
  | ensemble => "Ensemble"
  | time => "Time"
  | geoX => "GeoX"
  | geoY => "GeoY"
  | geoZ => "GeoZ"
  | lat => "Lat"
  | lon => "Lon"
  | height => "Height"
  | pressure => "Pressure"

def isVertical : AxisKind → Bool
  | geoZ | height | pressure => true
  | _ => false

def isHorizontal : AxisKind → Bool
  | geoX | geoY | lat | lon => true
  | _ => false

end AxisKind

namespace Convention

def pressureUnits : List String := ["pa", "hpa", "kpa", "mbar", "millibar", "bar", "atm"]

def latUnits : List String :=
  ["degrees_north", "degree_north", "degree_n", "degrees_n", "degreen", "degreesn"]

def lonUnits : List String :=
  ["degrees_east", "degree_east", "degree_e", "degrees_e", "degreee", "degreese"]

def heightUnits : List String := ["m", "meter", "meters", "km"]

def latNames : List String := ["lat", "latitude"]

def lonNames : List String := ["lon", "longitude"]

def altNames : List String := ["alt", "altitude", "elevation", "height"]

def timeNames : List String := ["time", "t"]

def attributeText (attrs : Table Value) (name : String) : String :=
  ((attrs.get? name).map Value.shown).getD ""

/-- The first of two attributes that is present, as text. -/
def descriptionText (attrs : Table Value) : String :=
  (((attrs.get? "long_name").orElse fun _ => attrs.get? "description").map Value.shown).getD ""

/-- Whether an attribute has a text, if it is there. -/
def isReadable (attrs : Table Value) (name : String) : Bool :=
  (attrs.get? name).all Value.hasText

/-- Whether the attributes that describe a variable have texts. -/
def isDescribed (attrs : Table Value) : Bool :=
  isReadable attrs "units" &&
    isReadable attrs (if attrs.contains "long_name" then "long_name" else "description")

def standardNames : List (String × AxisKind) := [
  ("latitude", .lat),
  ("longitude", .lon),
  ("grid_latitude", .geoY),
  ("grid_longitude", .geoX),
  ("projection_y_coordinate", .geoY),
  ("projection_x_coordinate", .geoX),
  ("time", .time),
  ("forecast_reference_time", .runTime),
  ("realization", .ensemble),
  ("air_pressure", .pressure),
  ("height", .height),
  ("altitude", .height),
  ("depth", .height),
  ("model_level_number", .geoZ),
  ("atmosphere_sigma_coordinate", .geoZ),
  ("atmosphere_hybrid_sigma_pressure_coordinate", .geoZ),
  ("atmosphere_hybrid_height_coordinate", .geoZ),
  ("ocean_sigma_coordinate", .geoZ),
  ("ocean_s_coordinate", .geoZ)]

def occursIn (part : List Char) : List Char → Bool
  | [] => part.isEmpty
  | c :: cs => part.isPrefixOf (c :: cs) || occursIn part cs

end Convention

namespace AxisKind

open Convention

def ofVertical (units : String) (hasPositive : Bool) : AxisKind :=
  if pressureUnits.contains units then pressure
  else if hasPositive && heightUnits.contains units then height
  else geoZ

/-- Whether the attributes that tell the kind of an axis, as far as they are asked, have texts. -/
def isTold (attrs : Table Value) : Bool :=
  isReadable attrs "units" && isReadable attrs "axis" &&
    (["T", "X", "Y", "Z"].contains (Text.upper (Text.strip (attributeText attrs "axis"))) ||
      isReadable attrs "standard_name")

/-- The kind that the metadata of a coordinate tells; none if it tells nothing. -/
def infer? (name : String) (attrs : Table Value) (holdsTimes : Bool) : Option AxisKind :=
  let units := Text.lower (Text.strip (attributeText attrs "units"))
  let direction := Text.upper (Text.strip (attributeText attrs "axis"))
  let hasPositive := attrs.contains "positive"
  if direction = "T" then some time
  else if direction = "X" then some (if lonUnits.contains units then lon else geoX)
  else if direction = "Y" then some (if latUnits.contains units then lat else geoY)
  else if direction = "Z" then some (ofVertical units hasPositive)
  else
    match standardNames.lookup (Text.lower (Text.strip (attributeText attrs "standard_name"))) with
    | some kind => some kind
    | none =>
        if latUnits.contains units then some lat
        else if lonUnits.contains units then some lon
        else if occursIn " since ".toList units.toList then some time
        else if pressureUnits.contains units then some pressure
        else if hasPositive then some (ofVertical units hasPositive)
        else if holdsTimes then some time
        else
          let name := Text.lower name
          if latNames.contains name then some lat
          else if lonNames.contains name then some lon
          else if timeNames.contains name then some time
          else none

end AxisKind

end Meteo
