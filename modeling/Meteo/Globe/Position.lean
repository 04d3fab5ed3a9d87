/-
# Meteo.Globe.Position -- points and boxes in degrees

A point has a finite latitude between the poles and a finite longitude.  A box has
two latitudes in order and two finite longitudes, from the western edge eastward
to the eastern one; when the western edge is the greater number the box crosses
the dateline.  Longitudes are taken modulo the full circle, the latitudes and the
edges of a box belong to it.
-/
import Meteo.Error
import Meteo.Number.Ordinate

namespace Meteo

set_option autoImplicit false

def circle : Nat := 360

section

variable {α : Type} [Ordinate α]

open Ordinate

def checkFinite (name : String) (x : α) : Except (PositionIssue α) Unit :=
  if isFinite x then .ok () else .error (.notFinite name x)

def checkLatitude (name : String) (x : α) : Except (PositionIssue α) Unit :=
  if le (-(ofNat 90)) x && le x (ofNat 90) then .ok () else .error (.latitudeRange name x)

end

structure Point (α : Type) where
  lat : α
  lon : α
  deriving Repr, Inhabited

namespace Point

variable {α : Type} [Ordinate α]

def ofDegrees (lat lon : α) : Except (PositionIssue α) (Point α) := do
  checkFinite "lat" lat
  checkFinite "lon" lon
  checkLatitude "lat" lat
  return ⟨lat, lon⟩

def text (p : Point Float) : String :=
  "LatLonPoint(lat=" ++ Double.text p.lat ++ ", lon=" ++ Double.text p.lon ++ ")"

end Point

structure Box (α : Type) where
  latMin : α
  latMax : α
  lonMin : α
  lonMax : α
  deriving Repr, Inhabited

namespace Box

variable {α : Type} [Ordinate α]

open Ordinate

def ofEdges (latMin latMax lonMin lonMax : α) : Except (PositionIssue α) (Box α) := do
  checkFinite "lat_min" latMin
  checkFinite "lat_max" latMax
  checkFinite "lon_min" lonMin
  checkFinite "lon_max" lonMax
  checkLatitude "lat_min" latMin
  checkLatitude "lat_max" latMax
  if lt latMax latMin then .error .latitudeOrder else return ⟨latMin, latMax, lonMin, lonMax⟩

/-- The degrees from the western to the eastern edge, at most a full circle.  A negative
difference of the edges has the circle added once. -/
def width (b : Box α) : α :=
  let difference := b.lonMax - b.lonMin
  let eastward := if lt difference zero then difference + ofNat circle else difference
  if lt (ofNat circle) eastward then ofNat circle else eastward

def crossesDateline (b : Box α) : Bool := lt b.lonMax b.lonMin

/-- Whether a point lies in the box or on its edge: the latitude between the edges, and the
longitude not further east of the western edge than the width. -/
def contains (b : Box α) (lat lon : α) : Bool :=
  le b.latMin lat && le lat b.latMax && le (wrap (lon - b.lonMin) circle) b.width

end Box

end Meteo
