/-
# Meteo.Proofs.Station.Times -- the times of a request, read once for all stations

Every station is restricted by itself, and the range and the instant of the request are
read anew for each.  What comes of the reading depends on the request alone
(`Times.ofRequest`), so one station cannot fail where another one has been restricted;
what is kept and seen of a station follows from it, and was observed there
(`mem_of_mem_seen`).
-/
import Meteo.Proofs.Log
import Meteo.Station.Subset

namespace Meteo

set_option autoImplicit false

namespace Temporal

/-- One observation further; the recursion is opened as it is, since looking into the comparison of
distances on the way takes too long. -/
theorem closestFrom_cons (i : Time.Instant) (best o : Observation) (os : List Observation) :
    closestFrom i best (o :: os) = closestFrom i (if closer i o best then o else best) os := by
  delta closestFrom
  rfl

theorem closestFrom_mem (i : Time.Instant) (best : Observation) (os : List Observation) :
    closestFrom i best os ∈ best :: os := by
  induction os generalizing best with
  | nil => exact List.mem_singleton.2 rfl
  | cons o os ih =>
      rw [closestFrom_cons]
      by_cases nearer : closer i o best
      · rw [if_pos nearer]
        exact List.mem_cons_of_mem _ (ih o)
      · rw [if_neg nearer]
        rcases List.mem_cons.1 (ih best) with same | later
        · rw [same]
          exact List.mem_cons_self
        · exact List.mem_cons_of_mem _ (List.mem_cons_of_mem _ later)

end Temporal

/-- The times that a request admits: a range, and the wanted instant if there is one. -/
structure Times where
  range : Time.Range
  wanted : Option Time.Instant

namespace Times

/-- The times of a request, if they can be read. -/
def ofRequest (r : Request) : Except Error Times := do
  let range ← Time.Range.ofRequest r.timeRange
  match r.time with
  | none => return ⟨range, none⟩
  | some t => return ⟨range, some (← t.instant)⟩

/-- A station with its observations in the range. -/
def kept (t : Times) (s : Station) : Station :=
  { s with observations := s.observations.filter fun o => t.range.contains o.time }

/-- The observations of a station that are wanted. -/
def seen (t : Times) (s : Station) : List Observation :=
  match t.wanted with
  | none => (t.kept s).observations
  | some i => (Temporal.closest? i (t.kept s).observations).toList

/-- The wanted observations of stations, each with the station that has it. -/
def pairs (t : Times) (ss : List Station) : List (Station × Observation) :=
  ss.flatMap fun s => (t.seen s).map (t.kept s, ·)

/-- The wanted observations of stations; without a station no time is read. -/
def pairsOf (r : Request) (ss : List Station) : Except Error (List (Station × Observation)) :=
  if ss.isEmpty then .ok [] else (ofRequest r).map (·.pairs ss)

@[simp] theorem pairs_nil (t : Times) : t.pairs [] = [] := rfl

@[simp] theorem pairs_cons (t : Times) (s : Station) (ss : List Station) :
    t.pairs (s :: ss) = (t.seen s).map (t.kept s, ·) ++ t.pairs ss := rfl

theorem pairs_flatten (t : Times) (parts : List (List Station)) :
    t.pairs parts.flatten = (parts.map t.pairs).flatten := by
  induction parts with
  | nil => rfl
  | cons ss parts ih =>
      rw [List.map_cons, List.flatten_cons, List.flatten_cons, ← ih]
      exact List.flatMap_append

/-- What is seen of a station was observed there. -/
theorem mem_of_mem_seen {t : Times} {s : Station} {o : Observation} (member : o ∈ t.seen s) :
    o ∈ s.observations := by
  have kept {o : Observation} (member : o ∈ (t.kept s).observations) : o ∈ s.observations :=
    (List.mem_filter.1 member).1
  rw [seen] at member
  cases wanted : t.wanted with
  | none =>
      rw [wanted] at member
      exact kept member
  | some i =>
      rw [wanted] at member
      cases observed : (t.kept s).observations with
      | nil =>
          rw [observed] at member
          cases member
      | cons o' os =>
          rw [observed] at member
          rw [List.mem_singleton.1 member]
          exact kept (observed ▸ Temporal.closestFrom_mem i o' os)

/-- Without a range nothing is left out. -/
theorem result_inRange (s : Station) (range : Option (List Time.Given)) :
    (Temporal.inRange s range).result =
      (Time.Range.ofRequest range).map fun range =>
        { s with observations := s.observations.filter fun o => range.contains o.time } := by
  cases range with
  | none =>
      have all : (s.observations.filter fun o => Time.Range.all.contains o.time) =
          s.observations := List.filter_eq_self.2 fun o _ => rfl
      simp only [Temporal.inRange, Logged.result_pure, Time.Range.ofRequest, Except.map, all]
  | some ts =>
      simp only [Temporal.inRange, Logged.result_bind, Logged.result_lift, Time.Range.ofRequest]
      cases Time.Range.ofGiven ts <;> rfl

end Times

end Meteo
