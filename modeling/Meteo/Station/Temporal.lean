/-
# Meteo.Station.Temporal -- the observations at the wanted times

A time range keeps the observations whose times do not lie outside it.  A wanted
instant reduces a station to its closest observation (`ClosestView`): the least
distance wins, of equal distances the earliest time, and of equal times the first.

Distances and times are compared as they come, so an observation without a time,
whose distance compares false with every other, neither replaces the best one nor,
standing first, is replaced.
-/
import Meteo.Log
import Meteo.Station.Basic
import Meteo.Text.Quoted
import Meteo.Time.Range

namespace Meteo

set_option autoImplicit false

open Time

namespace Temporal

def source : String := "geosubset.features.temporal"

def closer (wanted : Instant) (o p : Observation) : Bool :=
  let d := (o.time.since wanted).abs
  let e := (p.time.since wanted).abs
  if d.eq e then !o.time.eq p.time && o.time.lt p.time else d.lt e

/-- Goes on with the closest observation so far. -/
def closestFrom (wanted : Instant) (best : Observation) : List Observation → Observation
  | [] => best
  | o :: os => closestFrom wanted (if closer wanted o best then o else best) os

def closest? (wanted : Instant) : List Observation → Option Observation
  | [] => none
  | o :: os => some (closestFrom wanted o os)

/-- The station with the observations in a range.  Without one it is the station itself. -/
def inRange (s : Station) (range : Option (List Given)) : Logged Station :=
  match range with
  | none => return s
  | some ts => do
      let range ← Logged.lift (Range.ofGiven ts)
      let kept := s.observations.filter fun o => range.contains o.time
      Logged.report Log.Level.debug source
        ("Station " ++ s.name ++ ": " ++ Decimal.digitText kept.length ++ " of " ++
          Decimal.digitText s.observations.length ++ " observations in time range")
      return { s with observations := kept }

end Temporal

/-- A station seen as its observation closest to a wanted instant. -/
structure ClosestView where
  station : Station
  wanted : Instant

namespace ClosestView

def ofGiven (s : Station) (t : Given) : Except Error ClosestView := t.instant.map (⟨s, ·⟩)

def observations (v : ClosestView) : List Observation :=
  (Temporal.closest? v.wanted v.station.observations).toList

def toStation (v : ClosestView) : Station := { v.station with observations := v.observations }

def text (v : ClosestView) : String :=
  "ClosestTimeFeature(" ++ Text.quoted v.station.name ++ ", np.datetime64('" ++ v.wanted.text ++
    "'))"

end ClosestView

end Meteo
