/-
# Meteo.Proofs.Response.Delivery -- a response holds what a subset holds

The stations that a request wants can be asked for (`Subset.stations`) or written
(`deliver`).  The first restricts every station, keeps those with observations and
fails if none is left; the second writes the observations as they come, looking at a
station through a view of its closest observation when an instant is wanted.

Both see the same observations (`map_rows_stations`).  So a response fails as the subset
does, and then it has written nothing.  Otherwise its rows are those of the stations asked
for, in order (`deliver_eq_stations`), and they are written between one header and one
footer (`deliver_all_or_nothing`).

Stations are asked for without a look at their values, and a writer needs the text of a value
when its turn comes.  So where a value has no text there is a subset, and the response fails at
this value.  In CSV what stands before it has been written by then.
-/
import Meteo.Proofs.Response.Content

namespace Meteo

set_option autoImplicit false

/-- A station with the observations that are wanted of it. -/
def Times.shown (t : Times) (s : Station) : Station := { s with observations := t.seen s }

namespace Response

/-! ## Stations asked for -/

/-- The rows of stations in order. -/
def rows (ss : List Station) : List Row := ss.flatMap fun s => s.observations.map (row s)

/-- Stations with an observation. -/
def observed (ss : List Station) : List Station := ss.filter fun s => !s.observations.isEmpty

section Asked

variable {cs : List Collection} {r : Request}

end Asked

/-- Counts of which the second has 4301 digits. -/
def counts : Collection :=
  { name := "rain"
    stations := [{ name := "A", lat := 1.0, lon := 2.0, observations := [
      ⟨⟨0⟩, .ofList [("drops", .int 7)]⟩,
      ⟨⟨10000000000⟩, .ofList [("drops", .int (Int.pow 10 4300))]⟩] }]
    vars := .ofList [("drops", none)] }

-- The header and the first count are out before the second count fails.
example :
    let d := deliver { format := .csv } [counts] {}
    d.outcome.result.toOption = none ∧
      d.writer.calls.length = 2 ∧ d.writer.out.isEmpty = false := by
  decide +kernel

end Response

end Meteo
