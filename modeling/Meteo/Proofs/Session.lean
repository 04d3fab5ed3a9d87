/-
# Meteo.Proofs.Session -- every file that is opened is closed once

`Nested` events close files as brackets close: each opening has one closing behind it, and
files opened in between are closed before.  So no prefix closes a file more often than it
opens it, and in the end each file was closed as often as opened (`Nested.closed_le_opened`,
`Nested.closed_eq_opened`).

A session that opens a file refuses it, closes it behind whatever was done with it, or keeps
it and hands out its value.  `Refuses`, `Closes` and `Keeps` say which, with all the events
and the result.
-/
import Meteo.Proofs.Grid.Failures
import Meteo.Session

namespace Meteo

set_option autoImplicit false

/-- Files are closed in the reverse of the order in which they were opened, each of them once. -/
inductive Event.Nested : List Event → Prop where
  | nil : Nested []
  | refused (path : Text.Path) {behind : List Event} :
      Nested behind → Nested (.refused path :: behind)
  | file (path : Text.Path) {during behind : List Event} :
      Nested during → Nested behind → Nested (.opened path :: (during ++ .closed path :: behind))

namespace Event.Nested

variable {es fs : List Event}

theorem append (first : Nested es) (second : Nested fs) : Nested (es ++ fs) := by
  induction first with
  | nil => exact second
  | refused path _ ih => exact .refused path ih
  | file path during _ _ ih =>
      rw [List.cons_append, List.append_assoc]
      exact .file path during ih

theorem closed_eq_opened (nested : Nested es) (path : Text.Path) :
    es.count (.closed path) = es.count (.opened path) := by
  induction nested with
  | nil => rfl
  | refused p _ ih => simpa using ih
  | file p _ _ during behind =>
      simp only [List.count_cons, List.count_append, during, behind, beq_iff_eq, reduceCtorEq,
        if_false, Event.closed.injEq, Event.opened.injEq]
      omega

/-- A file is not closed before it was opened. -/
theorem closed_le_opened (nested : Nested es) (path : Text.Path) {before : List Event}
    (part : before <+: es) : before.count (.closed path) ≤ before.count (.opened path) := by
  induction nested generalizing before with
  | nil => rw [List.prefix_nil.1 part]; exact Nat.le_refl _
  | refused p _ ih =>
      obtain rfl | ⟨before', rfl, short⟩ := List.prefix_cons_iff.1 part
      · exact Nat.le_refl _
      · simpa using ih short
  | @file p during behind nested _ inside outside =>
      obtain rfl | ⟨before', rfl, short⟩ := List.prefix_cons_iff.1 part
      · exact Nat.le_refl _
      -- the prefix ends before the file is closed, or holds all that was done in between
      obtain short | ⟨rest, rfl⟩ :=
        List.prefix_or_prefix_of_prefix short (List.prefix_append during _)
      · have least := inside short
        simp only [List.count_cons, beq_iff_eq, reduceCtorEq, if_false]
        omega
      · have settled := nested.closed_eq_opened path
        obtain rfl | ⟨rest', rfl, shorter⟩ :=
          List.prefix_cons_iff.1 ((List.prefix_append_right_inj during).1 short)
        · simp only [List.append_nil, List.count_cons, beq_iff_eq, reduceCtorEq, if_false]
          omega
        · have least := outside shorter
          simp only [List.count_cons, List.count_append, beq_iff_eq, reduceCtorEq, if_false,
            Event.closed.injEq, Event.opened.injEq]
          omega

end Event.Nested

namespace Session

open Text (Path)

variable {α β : Type} {path : Path}

/-- The file could not be opened, so that nothing was done. -/
structure Refuses (path : Path) (r : Refusal) (s : Session α) : Prop where
  events : s.events = [.refused path]
  result : s.outcome.result = .error (r.error path)

/-- The file was opened, and closed behind what was done in between. -/
structure Closes (path : Path) (during : List Event) (result : Except Error α) (s : Session α) :
    Prop where
  events : s.events = .opened path :: (during ++ [.closed path])
  result : s.outcome.result = result

/-- The file was opened for a value that is handed out, and stays open. -/
structure Keeps (path : Path) (a : α) (s : Session α) : Prop where
  events : s.events = [.opened path]
  result : s.outcome.result = .ok a

theorem Refuses.nested {r : Refusal} {s : Session α} (refused : Refuses path r s) :
    Event.Nested s.events :=
  refused.events ▸ .refused path .nil

theorem Closes.nested {during : List Event} {result : Except Error α} {s : Session α}
    (closed : Closes path during result s) (nested : Event.Nested during) :
    Event.Nested s.events :=
  closed.events ▸ .file path nested .nil

section Opening

variable {file : Path → Except Refusal Dataset} {ds : Dataset}

theorem refuses_opening {r : Refusal} (refused : file path = .error r)
    (work : Dataset → Session α) : Refuses path r (opening file path work) := by
  rw [opening, refused]
  exact ⟨rfl, rfl⟩

theorem closes_opening (opened : file path = .ok ds) (work : Dataset → Logged α) :
    Closes path [] (work ds).result
      (opening file path fun ds => (ofLogged (work ds)).closing path) := by
  rw [opening, opened]
  exact ⟨rfl, rfl⟩

theorem closes_opening_of_error (opened : file path = .ok ds) {work : Dataset → Logged α}
    {e : Error} (failed : (work ds).result = .error e) :
    Closes path [] (.error e)
      (opening file path fun ds => (ofLogged (work ds)).closingFailed path) := by
  rw [opening, opened]
  dsimp only
  rw [closingFailed, ofLogged, failed]
  exact ⟨rfl, failed⟩

theorem keeps_opening (opened : file path = .ok ds) {work : Dataset → Logged α} {a : α}
    (made : (work ds).result = .ok a) :
    Keeps path a (opening file path fun ds => (ofLogged (work ds)).closingFailed path) := by
  rw [opening, opened]
  dsimp only
  rw [closingFailed, ofLogged, made]
  exact ⟨rfl, made⟩

end Opening

section Bind

variable {s : Session α} (f : α → Session β)

theorem Refuses.bind {r : Refusal} (refused : Refuses path r s) : Refuses path r (s.bind f) := by
  rw [Session.bind, refused.result]
  exact ⟨refused.events, rfl⟩

theorem Closes.bind {during : List Event} {e : Error} (closed : Closes path during (.error e) s) :
    Closes path during (.error e) (s.bind f) := by
  rw [Session.bind, closed.result]
  exact ⟨closed.events, rfl⟩

/-- A file that is kept is closed by work that closes it at its end. -/
theorem Keeps.bind {a : α} (kept : Keeps path a s) :
    Closes path (f a).events (f a).outcome.result (s.bind fun a => (f a).closing path) := by
  rw [Session.bind, kept.result]
  refine ⟨?_, rfl⟩
  dsimp only
  rw [kept.events]
  rfl

end Bind

/-! ## Stations and coverages -/

section Files

variable {file : Path → Except Refusal Dataset} {text : String}

/-- What a collection of stations is called: by the name that is given, if it is not empty, else
by the file. -/
def collectionName (path : Path) (name : Option String) : String :=
  (name.filter fun n => !n.isEmpty).getD path.name

theorem refuses_openStations {r : Refusal} (refused : file (Path.ofString text) = .error r)
    (name : Option String) : Refuses (Path.ofString text) r (openStations file text name) :=
  refuses_opening refused _

theorem closes_openStations {ds : Dataset} (opened : file (Path.ofString text) = .ok ds)
    (name : Option String) :
    Closes (Path.ofString text) []
      (Collection.ofDataset ds (some (collectionName (Path.ofString text) name)) none).result
      (openStations file text name) :=
  closes_opening opened fun ds =>
    Collection.ofDataset ds (some (collectionName (Path.ofString text) name)) none

theorem refuses_openGrid {r : Refusal} (refused : file (Path.ofString text) = .error r) :
    Refuses (Path.ofString text) r (openGrid file text) :=
  refuses_opening refused _

theorem closes_openGrid {ds : Dataset} (opened : file (Path.ofString text) = .ok ds) {e : Error}
    (failed : (Grid.CoverageDataset.ofDataset ds (some (Path.ofString text).text)).result =
      .error e) :
    Closes (Path.ofString text) [] (.error e) (openGrid file text) :=
  closes_opening_of_error opened failed

theorem keeps_openGrid {ds : Dataset} (opened : file (Path.ofString text) = .ok ds)
    {d : Grid.CoverageDataset}
    (made : (Grid.CoverageDataset.ofDataset ds (some (Path.ofString text).text)).result = .ok d) :
    Keeps (Path.ofString text) d (openGrid file text) :=
  keeps_opening opened made

theorem nested_openStations (file : Path → Except Refusal Dataset) (text : String)
    (name : Option String) : Event.Nested (openStations file text name).events := by
  cases opened : file (Path.ofString text) with
  | error r => exact (refuses_openStations opened name).nested
  | ok ds => exact (closes_openStations opened name).nested .nil

/-- Work that leaves no file open leaves none open when it is done with the coverages of a file. -/
theorem nested_withGrid (file : Path → Except Refusal Dataset) (text : String)
    {body : Grid.CoverageDataset → Session β} (nested : ∀ d, Event.Nested (body d).events) :
    Event.Nested (withGrid file text body).events := by
  cases opened : file (Path.ofString text) with
  | error r => exact ((refuses_openGrid opened).bind _).nested
  | ok ds =>
      cases made : (Grid.CoverageDataset.ofDataset ds (some (Path.ofString text).text)).result with
      | error e => exact ((closes_openGrid opened made).bind _).nested .nil
      | ok d => exact ((keeps_openGrid opened made).bind body).nested (nested d)

/-- A file that cannot be opened is not closed, and one that cannot be read is data that cannot
be processed.  One that is opened for its stations is closed once, whether they can be loaded or
not.  One that is opened for its coverages is closed once if it has none to show; otherwise it is
left open, and closed once behind the work done with them, whether that fails or not. -/
theorem closes_opened (file : Path → Except Refusal Dataset) (text : String)
    (name : Option String) (body : Grid.CoverageDataset → Session β) :
    (∀ r, file (Path.ofString text) = .error r →
      Refuses (Path.ofString text) r (openStations file text name) ∧
      Refuses (Path.ofString text) r (openGrid file text) ∧
      Refuses (Path.ofString text) r (withGrid file text body)) ∧
    (∀ reason, (Refusal.unreadable reason).error (Path.ofString text) =
      .processing (.opening (Path.ofString text).text) (some reason)) ∧
    (∀ ds, file (Path.ofString text) = .ok ds →
      Closes (Path.ofString text) []
        (Collection.ofDataset ds (some (collectionName (Path.ofString text) name)) none).result
        (openStations file text name)) ∧
    (∀ ds e, file (Path.ofString text) = .ok ds →
      (Grid.CoverageDataset.ofDataset ds (some (Path.ofString text).text)).result = .error e →
      Closes (Path.ofString text) [] (.error e) (openGrid file text) ∧
      Closes (Path.ofString text) [] (.error e) (withGrid file text body)) ∧
    (∀ ds d, file (Path.ofString text) = .ok ds →
      (Grid.CoverageDataset.ofDataset ds (some (Path.ofString text).text)).result = .ok d →
      Keeps (Path.ofString text) d (openGrid file text) ∧
      Closes (Path.ofString text) (body d).events (body d).outcome.result
        (withGrid file text body)) ∧
    Event.Nested (openStations file text name).events ∧
    ((∀ d, Event.Nested (body d).events) → Event.Nested (withGrid file text body).events) := by
  refine ⟨?_, ?_, ?_, ?_, ?_, ?_, ?_⟩
  · intro r refused
    have grid := refuses_openGrid refused
    exact ⟨refuses_openStations refused name, grid, grid.bind _⟩
  · intro reason
    rfl
  · intro ds opened
    exact closes_openStations opened name
  · intro ds e opened failed
    have grid := closes_openGrid opened failed
    exact ⟨grid, grid.bind _⟩
  · intro ds d opened made
    have grid := keeps_openGrid opened made
    exact ⟨grid, grid.bind body⟩
  · exact nested_openStations file text name
  · exact nested_withGrid file text

/-- A file that opens and has no coverages to show is closed before the failure is handed on. -/
theorem closes_opened_huge :
    ∃ ds e, Dataset.ofVariables Grid.huge .empty [] none = .ok ds ∧
      (Grid.CoverageDataset.ofDataset ds (some "data/sst.nc")).result = .error e ∧
      Path.ofString "./data//sst.nc" = ⟨"", ["data", "sst.nc"]⟩ ∧
      Closes ⟨"", ["data", "sst.nc"]⟩ [] (.error e)
        (openGrid (fun _ => .ok ds) "./data//sst.nc") := by
  obtain ⟨ds, stored, failed⟩ : ∃ ds, Dataset.ofVariables Grid.huge .empty [] none = .ok ds ∧
      Grid.fault? (Grid.CoverageDataset.ofDataset ds (some "data/sst.nc")).result =
        some .overflow :=
    ⟨_, rfl, by decide +kernel⟩
  have plain : Path.ofString "./data//sst.nc" = ⟨"", ["data", "sst.nc"]⟩ := by decide +kernel
  have shown : Path.text ⟨"", ["data", "sst.nc"]⟩ = "data/sst.nc" := by decide +kernel
  cases result : (Grid.CoverageDataset.ofDataset ds (some "data/sst.nc")).result with
  | ok d => rw [result] at failed; cases failed
  | error e =>
      obtain ⟨-, -, -, closes, -⟩ :=
        closes_opened (fun _ => .ok ds) "./data//sst.nc" none fun _ => ofLogged (pure ())
      rw [plain, shown] at closes
      exact ⟨ds, e, stored, result, plain, (closes ds e rfl result).1⟩

end Files

end Session

end Meteo
