/-
# Meteo.Session -- files that are opened and closed again

A session is what is done with files and what comes of it.  Its events say which
paths were opened, which could not be, and which were closed, in that order.

Stations are read at once, so their file is closed whatever comes of the reading
(`openStations`).  Coverages are read later: their file stays open when they are
handed out, and is closed when the dataset cannot be seen as coverages
(`openGrid`), or after the work done with them, whatever comes of it (`withGrid`).

How a file becomes a dataset is left to the caller, as a function from paths.
-/
import Meteo.Grid.Adapt
import Meteo.Station.Loading
import Meteo.Text.Path

namespace Meteo

set_option autoImplicit false

open Text (Path)

inductive Event where
  | refused (path : Path)
  | opened (path : Path)
  | closed (path : Path)
  deriving Repr, DecidableEq

/-- Why there is no dataset at a path: the file cannot be read, for a reason in words, or something
else failed. -/
inductive Refusal where
  | unreadable (reason : String)
  | other (error : Error)

def Refusal.error (path : Path) : Refusal → Error
  | unreadable reason => .processing (.opening path.text) (some reason)
  | other e => e

structure Session (α : Type) where
  events : List Event
  outcome : Logged α

namespace Session

variable {α β : Type}

def ofLogged (outcome : Logged α) : Session α := ⟨[], outcome⟩

def after (e : Event) (s : Session α) : Session α := { s with events := e :: s.events }

/-- The same with the file at a path closed at the end. -/
def closing (path : Path) (s : Session α) : Session α :=
  { s with events := s.events ++ [.closed path] }

/-- The same with the file at a path closed if the work failed. -/
def closingFailed (path : Path) (s : Session α) : Session α :=
  match s.outcome.result with
  | .ok _ => s
  | .error _ => s.closing path

def bind (s : Session α) (f : α → Session β) : Session β :=
  match s.outcome.result with
  | .error e => ⟨s.events, ⟨s.outcome.entries, .error e⟩⟩
  | .ok a =>
      { events := s.events ++ (f a).events
        outcome := ⟨s.outcome.entries ++ (f a).outcome.entries, (f a).outcome.result⟩ }

/-- Opens the file at a path and works with its dataset. -/
def opening (file : Path → Except Refusal Dataset) (path : Path) (work : Dataset → Session α) :
    Session α :=
  match file path with
  | .error r => ⟨[.refused path], Logged.fail (r.error path)⟩
  | .ok ds => (work ds).after (.opened path)

def closes (s : Session α) : Nat :=
  s.events.countP fun
    | .closed _ => true
    | _ => false

end Session

def openGrid (file : Path → Except Refusal Dataset) (path : String) :
    Session Grid.CoverageDataset :=
  let p := Path.ofString path
  Session.opening file p fun ds =>
    (Session.ofLogged (Grid.CoverageDataset.ofDataset ds (some p.text))).closingFailed p

/-- Works with the coverages of a file and closes it afterwards. -/
def withGrid {β : Type} (file : Path → Except Refusal Dataset) (path : String)
    (body : Grid.CoverageDataset → Session β) : Session β :=
  (openGrid file path).bind fun d => (body d).closing (Path.ofString path)

/-- Reads the stations of a file.  Without a name the collection is called by the file. -/
def openStations (file : Path → Except Refusal Dataset) (path : String) (name : Option String) :
    Session Collection :=
  let p := Path.ofString path
  let name := (name.filter fun n => !n.isEmpty).getD p.name
  Session.opening file p fun ds =>
    (Session.ofLogged (Collection.ofDataset ds (some name) none)).closing p

end Meteo
