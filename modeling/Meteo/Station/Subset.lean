/-
# Meteo.Station.Subset -- the stations and observations that a request wants

The selected stations are restricted in time; those that keep no observation are
left out, and when none is left there is nothing to answer.
-/
import Meteo.Station.Selection
import Meteo.Station.Temporal

namespace Meteo

set_option autoImplicit false

namespace Subset

def inTime (r : Request) (s : Station) : Logged Station := do
  let s ← Temporal.inRange s r.timeRange
  match r.time with
  | none => return s
  | some t => return (← Logged.lift (ClosestView.ofGiven s t)).toStation

/-- The stations that keep an observation, restricted to the times of a request. -/
def inTimes (r : Request) : List Station → Logged (List Station)
  | [] => return []
  | s :: ss => do
      let s ← inTime r s
      let rest ← inTimes r ss
      return if s.observations.isEmpty then rest else s :: rest

def emptyError (r : Request) : Error :=
  .emptySubset (some ("spatial selection: " ++ r.selector.text))

def stations (cs : List Collection) (r : Request) : Logged (List Station) := do
  let kept ← inTimes r (← select cs r)
  if kept.isEmpty then throw (emptyError r) else return kept

end Subset

end Meteo
