/-
# Meteo.Log.Logger -- where entries go

A logger passes the entries that are grave enough to its handlers, and each handler
writes those that are grave enough for it: to the console, to a file, or nowhere.
Until it is set up a logger passes warnings and writes nothing.

`Logger.setUp` replaces the handlers.  It goes on step by step, and a failure leaves
what was done before: a level that is none changes nothing, a pattern without a
field leaves no handlers, a file that cannot be opened leaves the console.
-/
import Meteo.Files
import Meteo.Log.Line

namespace Meteo.Log

set_option autoImplicit false

def rootName : String := "geosubset"

def sourceName (name : String) : String :=
  if name = rootName || (rootName ++ ".").toList.isPrefixOf name.toList then name
  else rootName ++ "." ++ name

inductive Sink where
  | nowhere
  | console (line : Line)
  | file (path : Text.Path) (line : Line)
  deriving Repr, DecidableEq

/-- What writes the entries that are grave enough. -/
structure Handler where
  sink : Sink
  level : Threshold
  deriving Repr, DecidableEq

/-- A logger, what it has written, and whether it also passes entries on to others. -/
structure Logger where
  level : Threshold := .level Level.warning
  passesOn : Bool := true
  handlers : List Handler := List.replicate 2 ⟨.nowhere, .level Level.unset⟩
  console : String := ""
  files : Files := {}

structure Setup where
  level : Value := .int Level.info
  file : String := ""
  pattern : String := Line.defaultPattern
  time : String := ""

namespace Logger

/-- The level from which on entries are passed: without one of its own, that of warnings. -/
def effectiveLevel (l : Logger) : Int :=
  if l.level.number = Level.unset then Level.warning else l.level.number

def isEnabled (l : Logger) (level : Int) : Bool := Level.unset < level && l.effectiveLevel ≤ level

def handle (e : Entry) (l : Logger) (h : Handler) : Logger :=
  if e.level < h.level.number then l
  else
    match h.sink with
    | .nowhere => l
    | .console line =>
        match line.text? e with
        | some s => { l with console := l.console ++ s ++ "\n" }
        | none => l
    | .file path line =>
        match line.text? e with
        | some s => { l with files := l.files.append path (s ++ "\n") }
        | none => l

def log (l : Logger) (e : Entry) : Logger :=
  if l.isEnabled e.level then l.handlers.foldl (handle e) l else l

def logAll (l : Logger) (es : List Entry) : Logger := es.foldl log l

def fileEntry (path : Text.Path) : Entry :=
  ⟨Level.info, rootName, "Logging to file: " ++ path.text⟩

/-- Adds a handler that writes to a file, says so, and passes entries on to no others. -/
def addFile (l : Logger) (path : Text.Path) (line : Line) (level : Threshold) :
    Logger × Except Fault Unit :=
  let (files, opened) := l.files.openEnd path
  match opened with
  | .error fault => ({ l with files }, .error fault)
  | .ok _ =>
      let l : Logger :=
        { l with files, handlers := l.handlers ++ [Handler.mk (.file path line) level] }
      ({ l.log (fileEntry path) with passesOn := false }, .ok ())

def addHandlers (l : Logger) (s : Setup) (level : Threshold) : Logger × Except Fault Unit :=
  match Line.ofPattern s.pattern s.time with
  | .error fault => (l, .error fault)
  | .ok line =>
      let l : Logger := { l with handlers := [Handler.mk (.console line) level] }
      if s.file.isEmpty then ({ l with passesOn := false }, .ok ())
      else l.addFile (Text.Path.ofString s.file) line level

def setUp (l : Logger) (s : Setup) : Logger × Except Fault Unit :=
  match Threshold.ofValue Level.info s.level with
  | .error fault => (l, .error fault)
  | .ok level => ({ l with level, handlers := [] } : Logger).addHandlers s level

def setLevel (l : Logger) (level : Value) : Logger × Except Fault Unit :=
  match Threshold.ofValue Level.warning level with
  | .error fault => (l, .error fault)
  | .ok level =>
      ({ l with level, handlers := l.handlers.map fun h => { h with level } }, .ok ())

end Logger

end Meteo.Log
