/-
# Meteo.Globe.Distance -- distances between points, for finding the nearest

Only the order of distances matters, so the distance is the square of an angle:
the difference of the latitudes and that of the longitudes, the latter shrunk by
the cosine of the latitude of the point that is searched from.  The longitude of
the other point is first brought within half a circle.

`nearest?` is the first of several candidates equally near; a candidate whose
distance is infinite or no number never replaces another one.
-/
import Meteo.Globe.Position

namespace Meteo

set_option autoImplicit false

/-- How angles in degrees are measured: in radians, and by their cosine. -/
structure AngleMeasure (α : Type) where
  radians : α → α
  cos : α → α

def AngleMeasure.double : AngleMeasure Float where
  radians x := x * (3.141592653589793 / 180.0)
  cos := Float.cos

section

variable {α : Type} [Ordinate α]

open Ordinate

/-- The longitude within half a circle of `center` that differs from `lon` by whole circles. -/
def lonNear (lon center : α) : Except Unrounded α :=
  (remainder? (lon - center) circle).map (center + ·)

def distance (m : AngleMeasure α) (p : Point α) (lat lon : α) : Except Unrounded α :=
  (lonNear lon p.lon).map fun near =>
    let dy := m.radians (p.lat - lat)
    let dx := m.cos (m.radians p.lat) * m.radians (p.lon - near)
    dy * dy + dx * dx

variable {β : Type}

/-- Goes on with a candidate and its distance, which is none before the first finite one. -/
def nearestFrom (best : β) (least : Option α) : List (β × α) → β
  | [] => best
  | (b, d) :: rest =>
      let nearer :=
        match least with
        | none => isFinite d
        | some l => lt d l
      if nearer then nearestFrom b (some d) rest else nearestFrom best least rest

def nearest? (candidates : List (β × α)) : Option β :=
  match candidates with
  | [] => none
  | (b, d) :: rest => some (nearestFrom b none ((b, d) :: rest))

end

end Meteo
