/-
# Meteo.Proofs.Response.Calls -- the calls that make a response

A response is made by calls to its writer, one after the other up to the first one
that is refused (`Writer.performAll`).  Which calls they are does not depend on how the
observations are spread over stations: writing a station after some others is answering
the calls for its observations, with a header in front of the first one of all
(`writeFrom_eq`, `writeIn_eq`), so stations without observations leave no trace in
them.

The times of a request are read again for every station, and a request whose times
cannot be read fails.  It fails at the first station, though, because every reading
comes to the same (`Times.ofRequest`); by then nothing has been written.  Hence a whole
response is either no call at all, or it is what comes of the calls for all wanted
observations between a header and a footer (`attempt_deliver`).
-/
import Meteo.Proofs.Log
import Meteo.Proofs.Outcome
import Meteo.Proofs.Station.Times
import Meteo.Response.Delivery

namespace Meteo.Response

set_option autoImplicit false

/-! ## Rows -/

/-- What an observation of a station brings into a response. -/
structure Row where
  name : String
  lat : Float
  lon : Float
  altitude : Option Float
  observation : Observation

def row (s : Station) (o : Observation) : Row := ⟨s.name, s.lat, s.lon, s.altitude, o⟩

/-- The rows of observations and the stations that have them. -/
def rowsOf (ps : List (Station × Observation)) : List Row := ps.map fun p => row p.1 p.2

/-- The row that a call hands over. -/
def Call.row? : Call → Option Row
  | .observation s o => some (row s o)
  | _ => none

/-- The rows of the calls that a writer has answered. -/
def Writer.rows (w : Writer) : List Row := w.calls.filterMap Call.row?

/-! ## Attempts one after the other -/

namespace Attempt

variable {α β γ : Type}

@[simp] theorem andThen_done (w : Writer) (x : α) (f : Writer → α → Attempt β) :
    (done w x).andThen f = f w x := rfl

@[simp] theorem andThen_refused (w : Writer) (e : Error) (f : Writer → α → Attempt β) :
    (refused w e).andThen f = refused w e := rfl

theorem andThen_assoc (a : Attempt α) (f : Writer → α → Attempt β) (g : Writer → β → Attempt γ) :
    (a.andThen f).andThen g = a.andThen fun w x => (f w x).andThen g := by
  obtain ⟨w, _ | _⟩ := a <;> rfl

theorem andThen_done_self (a : Attempt Unit) : a.andThen done = a := by
  obtain ⟨w, _ | _⟩ := a <;> rfl

@[simp] theorem result_andThen_done (a : Attempt α) (f : α → β) :
    (a.andThen fun w x => done w (f x)).result = a.result.map f := by
  obtain ⟨w, _ | _⟩ := a <;> rfl

@[simp] theorem writer_andThen_done (a : Attempt α) (f : α → β) :
    (a.andThen fun w x => done w (f x)).writer = a.writer := by
  obtain ⟨w, _ | _⟩ := a <;> rfl

end Attempt

/-! ## Calls one after the other -/

/-- The calls for observations and the stations that have them. -/
def observing (ps : List (Station × Observation)) : List Call :=
  ps.map fun p => .observation p.1 p.2

namespace HeaderState

/-- The calls for observations, with the header in front unless it has been written. -/
def calls : HeaderState → List (Station × Observation) → List Call
  | _, [] => []
  | .notStarted, p :: ps => .header p.2 :: observing (p :: ps)
  | .written, p :: ps => observing (p :: ps)

/-- The state of the header behind observations. -/
def after (state : HeaderState) (ps : List (Station × Observation)) : HeaderState :=
  if ps.isEmpty then state else .written

theorem calls_written (ps : List (Station × Observation)) : written.calls ps = observing ps := by
  cases ps <;> rfl

theorem after_written (ps : List (Station × Observation)) : written.after ps = .written := by
  cases ps <;> rfl

theorem calls_append (state : HeaderState) (ps qs : List (Station × Observation)) :
    state.calls (ps ++ qs) = state.calls ps ++ (state.after ps).calls qs := by
  cases ps with
  | nil => rfl
  | cons p ps =>
      cases qs with
      | nil => simp [calls]
      | cons q qs => cases state <;> simp [calls, after, observing]

end HeaderState

namespace Writer

open Attempt

variable {w : Writer}

/-- Answers calls one after the other, up to the first one that is refused. -/
def performAll (w : Writer) : List Call → Attempt Unit
  | [] => done w ()
  | call :: calls => (w.attempt call).andThen fun w _ => w.performAll calls

theorem performAll_cons (w : Writer) (call : Call) (calls : List Call) :
    w.performAll (call :: calls) = (w.attempt call).andThen fun w _ => w.performAll calls := rfl

theorem performAll_append (w : Writer) (first rest : List Call) :
    w.performAll (first ++ rest) =
      (w.performAll first).andThen fun w _ => w.performAll rest := by
  induction first generalizing w with
  | nil => rfl
  | cons call first ih =>
      simp only [List.cons_append, performAll_cons, andThen_assoc, ih]

theorem performAll_singleton (w : Writer) (call : Call) :
    w.performAll [call] = w.attempt call := andThen_done_self _

/-- Writing observations is answering their calls. -/
theorem writeFrom_eq (w : Writer) (state : HeaderState) (count : Nat) (s : Station)
    (os : List Observation) :
    w.writeFrom state count s os =
      (w.performAll (state.calls (os.map (s, ·)))).andThen fun w _ =>
        done w (state.after (os.map (s, ·)), count + os.length) := by
  induction os generalizing w state count with
  | nil => rfl
  | cons o os ih =>
      -- Behind the first observation the header stands, so both states go on alike.
      have rest (w : Writer) : w.writeFrom .written (count + 1) s os =
          (w.performAll (observing (os.map (s, ·)))).andThen fun w _ =>
            done w (.written, count + (os.length + 1)) := by
        rw [ih, HeaderState.calls_written, HeaderState.after_written, Nat.add_assoc,
          Nat.add_comm 1]
      have observed (w : Writer) :
          ((w.attempt (.observation s o)).andThen fun w _ =>
              w.writeFrom .written (count + 1) s os) =
            (w.performAll (observing ((o :: os).map (s, ·)))).andThen fun w _ =>
              done w (.written, count + (os.length + 1)) := by
        simp only [rest, List.map_cons, observing, performAll_cons, andThen_assoc]
      cases state with
      | written => exact observed w
      | notStarted =>
          simp only [writeFrom, begin, observed]
          exact (andThen_assoc _ _ _).symm

end Writer

/-! ## Stations one after the other -/

namespace Delivery

open Attempt

/-- What comes of a delivery besides its reports. -/
def attempt {α : Type} (d : Delivery α) : Attempt α := ⟨d.writer, d.outcome.result⟩

/-- Restricts a station to the range of a request and writes what is wanted of it. -/
def writeIn (r : Request) (w : Writer) (state : HeaderState) (s : Station) :
    Attempt (HeaderState × Nat) :=
  match (Temporal.inRange s r.timeRange).result with
  | .error e => refused w e
  | .ok s => writeSeen r w state s

/-- A station is written by the calls for its wanted observations, if the times of the request can
be read. -/
theorem writeIn_eq (r : Request) (w : Writer) (state : HeaderState) (s : Station) :
    writeIn r w state s =
      match Times.ofRequest r with
      | .error e => refused w e
      | .ok t => (w.performAll (state.calls (t.pairs [s]))).andThen fun w _ =>
          done w (state.after (t.pairs [s]), (t.pairs [s]).length) := by
  have written (t : Times) : w.writeFrom state 0 (t.kept s) (t.seen s) =
      (w.performAll (state.calls (t.pairs [s]))).andThen fun w _ =>
        done w (state.after (t.pairs [s]), (t.pairs [s]).length) := by
    rw [Writer.writeFrom_eq, Times.pairs_cons, Times.pairs_nil, List.append_nil, List.length_map,
      Nat.zero_add]
  rw [writeIn, Times.result_inRange, Times.ofRequest]
  cases Time.Range.ofRequest r.timeRange with
  | error e => rfl
  | ok range =>
      simp only [Except.map, writeSeen]
      cases r.time with
      | none => exact written ⟨range, none⟩
      | some given =>
          simp only [ClosestView.ofGiven]
          cases given.instant with
          | error e => rfl
          | ok i => exact written ⟨range, some i⟩

theorem attempt_writeAll_cons (r : Request) (w : Writer) (state : HeaderState) (count : Nat)
    (s : Station) (ss : List Station) :
    (writeAll r w state count (s :: ss)).attempt =
      (writeIn r w state s).andThen fun w made =>
        (writeAll r w made.1 (count + made.2) ss).attempt := by
  rw [writeAll, writeIn]
  cases (Temporal.inRange s r.timeRange).result with
  | error e => rfl
  | ok s =>
      simp only [Attempt.andThen]
      cases (writeSeen r w state s).result <;> rfl

/-- Times that cannot be read are noticed at the first station, before anything is written. -/
theorem attempt_writeAll_of_unreadable {r : Request} {e : Error}
    (unreadable : Times.ofRequest r = .error e) (w : Writer) (state : HeaderState) (count : Nat)
    (s : Station) (ss : List Station) :
    (writeAll r w state count (s :: ss)).attempt = refused w e := by
  rw [attempt_writeAll_cons, writeIn_eq, unreadable, andThen_refused]

/-- With times that can be read all stations are written, as far as the writer answers the calls
for their observations. -/
theorem attempt_writeAll_of_readable {r : Request} {t : Times}
    (readable : Times.ofRequest r = .ok t) (w : Writer) (state : HeaderState) (count : Nat)
    (ss : List Station) :
    (writeAll r w state count ss).attempt =
      (w.performAll (state.calls (t.pairs ss))).andThen fun w _ =>
        done w (count + (t.pairs ss).length) := by
  induction ss generalizing w state count with
  | nil => rfl
  | cons s ss ih =>
      have split : t.pairs (s :: ss) = t.pairs [s] ++ t.pairs ss := by simp
      rw [split, HeaderState.calls_append, Writer.performAll_append, attempt_writeAll_cons,
        writeIn_eq, readable]
      simp only [andThen_assoc, andThen_done, ih, List.length_append, Nat.add_assoc]

end Delivery

/-! ## Whole responses -/

/-- The observations that a request wants of collections, in order and with the stations that have
them; or why there are none. -/
def handed (cs : List Collection) (r : Request) : Except Error (List (Station × Observation)) := do
  let ss ← (select cs r).result
  let ps ← Times.pairsOf r ss
  if ps.isEmpty then .error (Subset.emptyError r) else return ps

/-- A request that wants nothing fails. -/
theorem ne_nil_of_handed {cs : List Collection} {r : Request} {ps : List (Station × Observation)}
    (wanted : handed cs r = .ok ps) : ps ≠ [] := by
  rw [handed] at wanted
  obtain ⟨ss, -, rest⟩ := Outcome.bind_eq_ok.1 wanted
  obtain ⟨qs, -, made⟩ := Outcome.bind_eq_ok.1 rest
  split at made
  · cases made
  · next some =>
    cases made
    exact fun none => some (List.isEmpty_iff.2 none)

/-- The calls of a response with these observations. -/
def script (ps : List (Station × Observation)) : List Call :=
  HeaderState.notStarted.calls ps ++ [.footer]

namespace Delivery

open Attempt

/-- A response is ended by the footer, unless there has been nothing to write. -/
theorem attempt_finish (r : Request) (stations : Nat) (w : Writer) (count : Nat) :
    (finish r stations w count).attempt =
      if count = 0 then refused w (Subset.emptyError r)
      else (w.attempt .footer).andThen fun w _ => done w count := by
  rw [finish]
  split
  · rfl
  · have ended : w.perform .footer = (w.attempt .footer).result.map fun _ =>
        (w.attempt .footer).writer := rfl
    -- A refused footer leaves its writer as it is.
    cases format : w.format <;>
      simp only [ended, Writer.attempt, Writer.effect, format, andThen_done, andThen_refused] <;>
      rfl

theorem attempt_conclude (r : Request) (stations : Nat) (d : Delivery Nat) :
    (conclude r stations d).attempt =
      d.attempt.andThen fun w count => (finish r stations w count).attempt := by
  obtain ⟨w, entries, e | count⟩ := d <;> rfl

/-- A response of observations that have been written ends behind them. -/
theorem attempt_conclude_calls {w : Writer} (r : Request) (stations : Nat)
    (ps : List (Station × Observation)) {d : Delivery Nat}
    (written : d.attempt = (w.performAll (HeaderState.notStarted.calls ps)).andThen fun w _ =>
      done w ps.length) :
    (conclude r stations d).attempt =
      if ps.isEmpty then refused w (Subset.emptyError r)
      else (w.performAll (script ps)).andThen fun w _ => done w ps.length := by
  rw [attempt_conclude, written, script, Writer.performAll_append]
  simp only [andThen_assoc, andThen_done, attempt_finish, Writer.performAll_singleton]
  cases ps with
  | nil => rfl
  | cons p ps => rfl

end Delivery

/-- A response fails and has left the writer alone, or it is what comes of the calls for the
observations that are wanted. -/
theorem attempt_deliver (w : Writer) (cs : List Collection) (r : Request) :
    (deliver w cs r).attempt =
      match handed cs r with
      | .error e => .refused (prepared w cs r) e
      | .ok ps => ((prepared w cs r).performAll (script ps)).andThen fun w _ =>
          .done w ps.length := by
  rw [handed, deliver]
  cases (select cs r).result with
  | error e => rfl
  | ok ss =>
      change (conclude r ss.length
        (Delivery.writeAll r (prepared w cs r) .notStarted 0 ss)).attempt = _
      cases ss with
      | nil =>
          -- No time is read, so a request with unreadable times fails for want of observations.
          exact Delivery.attempt_conclude_calls r 0 [] rfl
      | cons s ss =>
          cases readable : Times.ofRequest r with
          | error e =>
              rw [Delivery.attempt_conclude, Delivery.attempt_writeAll_of_unreadable readable]
              simp only [Times.pairsOf, readable]
              rfl
          | ok t =>
              have written := Delivery.attempt_writeAll_of_readable readable (prepared w cs r)
                .notStarted 0 (s :: ss)
              rw [Nat.zero_add] at written
              rw [Delivery.attempt_conclude_calls r _ _ written]
              simp only [Times.pairsOf, List.isEmpty_cons, Bool.false_eq_true, if_false, readable,
                Except.map, bind, Except.bind]
              split <;> rfl

end Meteo.Response
