/-
# Meteo.Station.Selection -- the stations that a request selects

Every collection of the requested kind contributes the stations that the criterion
in effect selects in it, in the order of the collections; the nearest station is
sought in each collection by itself.  If the request insists on its variables, a
station stays only if every one of its observations has them all.
-/
import Meteo.Globe.Distance
import Meteo.Log
import Meteo.Station.Request

namespace Meteo

set_option autoImplicit false

namespace Selection

def source : String := "geosubset.features.selection"

def note (text : String) : Logged Unit := Logged.report Log.Level.debug source text

def distanceTo (p : Point Float) (s : Station) : Except Error Float :=
  (distance AngleMeasure.double p s.lat s.lon).mapError fun _ => .fault .badValue

/-- The first of the candidates that is nearest to a point.  There must be candidates, and a place
for each of them. -/
def nearestOf {β : Type} (place : β → Station) (p : Point Float) (candidates : List β) :
    Except Error β := do
  if candidates.isEmpty then throw (.invalid .noCandidates)
  let measured ← candidates.mapM fun c => do return (c, ← distanceTo p (place c))
  match nearest? measured with
  | some c => return c
  | none => throw (.invalid .noCandidates)

/-- The stations all of whose observations have these variables. -/
def withVariables (stations : List Station) (names : List String) : Logged (List Station) := do
  let kept := stations.filter fun s => s.hasVariables names
  if kept.length ≠ stations.length then
    note ("Variable filter " ++ quotedNames names ++ " removed " ++
      Decimal.digitText (stations.length - kept.length) ++ " of " ++
      Decimal.digitText stations.length ++ " stations")
  return kept

def missingCount (names : List String) (found : List Station) : Int :=
  (names.eraseDups.length : Int) - found.length

def spatial (c : Collection) (r : Request) : Logged (List Station) :=
  match r.stations, r.box, r.point with
  | some names, _, _ =>
      if r.isAllStations then return c.stations
      else do
        let found := c.pick names
        let missing := missingCount names found
        if missing ≠ 0 then
          note ("Collection " ++ c.name ++ ": " ++ Decimal.intText missing ++
            " requested stations not found")
        return found
  | none, some b, _ => return c.inBox b
  | none, none, some p =>
      if c.stations.isEmpty then return []
      else do
        let closest ← Logged.lift (nearestOf id p c.stations)
        note ("Collection " ++ c.name ++ ": closest station to " ++ p.text ++ " is " ++
          closest.name)
        return [closest]
  | none, none, none => return c.stations

def ofCollection (c : Collection) (r : Request) : Logged (List Station) := do
  let stations ← spatial c r
  match r.requireVariables, r.vars with
  | true, some (name :: names) => withVariables stations (name :: names)
  | _, _ => return stations

def contribution (r : Request) (c : Collection) : Logged (List Station) :=
  if c.kind ≠ r.kind then do
    note ("Skipping collection " ++ c.name ++ " of type " ++ c.kind.text)
    return []
  else if !c.kind.hasStations then do
    note ("Collection " ++ c.name ++ " has no station features")
    return []
  else ofCollection c r

def contributions (r : Request) : List Collection → Logged (List Station)
  | [] => return []
  | c :: cs => do return (← contribution r c) ++ (← contributions r cs)

end Selection

def select (cs : List Collection) (r : Request) : Logged (List Station) := do
  let wanted ← Selection.contributions r cs
  Logged.report Log.Level.info Selection.source
    ("Selected " ++ Decimal.digitText wanted.length ++ " stations by " ++ r.selector.text)
  return wanted

end Meteo
