/-
# Meteo.Files -- texts kept under paths

Files are texts in folders.  A path is walked from folder to folder: a part may stay
(`.`), go back to the parent (`..`), or enter a folder, and only its last part may be
a file.  Parts have a greatest length, and so have paths.

A folder that is missing is made together with the missing folders in front of it; what
was made stays even if the last one cannot be.  A file is opened for writing at its
end, under the name that its path has without detours.  A text that is read has the
same end for every line, however its lines were ended.
-/
import Meteo.Error
import Meteo.Table
import Meteo.Text.Path

namespace Meteo

set_option autoImplicit false

/-- Texts under the plain forms of paths without detours, and the folders that were made. -/
structure Files where
  contents : Table String := .empty
  folders : List String := []
  deriving Inhabited

namespace Files

open Text

def partLimit : Nat := 255

def pathLimit : Nat := 4096

def parent (p : Path) : Path :=
  match p.parts.getLast? with
  | none | some ".." => if p.root = "" then { p with parts := p.parts ++ [".."] } else p
  | some _ => { p with parts := p.parts.dropLast }

/-- Whether there is a folder at a path without detours.  The folders around the working folder
are there. -/
def isFolder (fs : Files) (p : Path) : Bool :=
  p.parts.all (· = "..") || fs.folders.contains p.text

def isFile (fs : Files) (p : Path) : Bool := fs.contents.contains p.text

/-- The path of a part of a folder, if it may have that name. -/
def child (p : Path) (part : String) : Except Fault Path :=
  if partLimit < part.utf8ByteSize then .error .longName
  else .ok { p with parts := p.parts ++ [part] }

/-- The folder to which parts lead from a folder. -/
def enter (fs : Files) (p : Path) : List String → Except Fault Path
  | [] => .ok p
  | part :: parts =>
      if part = "" || part = "." then fs.enter p parts
      else if part = ".." then fs.enter (parent p) parts
      else do
        let q ← child p part
        if fs.isFolder q then fs.enter q parts
        else .error (if fs.isFile q then .notFolder else .missingFile)

/-- Fails for a path that none can be. -/
def checkText (s : String) : Except Fault Unit :=
  if s.toList.contains '\x00' then .error .badValue
  else if pathLimit ≤ s.utf8ByteSize then .error .longName
  else .ok ()

/-- What a path leads to, without detours: the folder of its last part, and the part itself, empty
if it is no name. -/
def walk (fs : Files) (p : Path) : Except Fault (Path × String) := do
  checkText p.text
  let start : Path := ⟨p.root, []⟩
  match p.parts.getLast? with
  | none => return (start, "")
  | some last =>
      if last = "" || last = "." || last = ".." then return (← fs.enter start p.parts, "")
      else return (← fs.enter start p.parts.dropLast, last)

def leadsToFolder (fs : Files) (p : Path) : Bool :=
  match fs.enter ⟨p.root, []⟩ p.parts with
  | .ok _ => true
  | .error _ => false

def makeFolder (fs : Files) (p : Path) : Except Fault Files := do
  let (folder, name) ← fs.walk p
  if name = "" then throw .fileInPlace
  let q ← child folder name
  if fs.isFolder q || fs.isFile q then throw .fileInPlace
  return { fs with folders := fs.folders ++ [q.text] }

def makeSure (fs : Files) (p : Path) : Files × Except Fault Unit :=
  match fs.makeFolder p with
  | .ok fs => (fs, .ok ())
  | .error fault =>
      if fault = .fileInPlace && fs.leadsToFolder p then (fs, .ok ()) else (fs, .error fault)

/-- Makes the folder with these parts, the last of them first, and the missing folders in front of
it. -/
def makeAll (fs : Files) (root : String) : List String → Files × Except Fault Unit
  | [] => fs.makeSure ⟨root, []⟩
  | part :: parts =>
      let p : Path := ⟨root, (part :: parts).reverse⟩
      match fs.makeSure p with
      | (fs, .error .missingFile) =>
          match fs.makeAll root parts with
          | (fs, .ok _) => fs.makeSure p
          | failed => failed
      | done => done

/-- The parts of a path without detours; `before` is reversed. -/
def direct (before : List String) : List String → List String
  | [] => before.reverse
  | ".." :: rest =>
      match before with
      | [] | ".." :: _ => direct (".." :: before) rest
      | _ :: before => direct before rest
  | part :: rest => direct (part :: before) rest

def plain (p : Path) : Path := ⟨p.root, direct [] p.parts⟩

/-- Opens a file for writing at its end.  The folders that lead to it are made. -/
def openEnd (fs : Files) (p : Path) : Files × Except Fault Unit :=
  match fs.makeAll p.root (p.parts.dropLast).reverse with
  | (fs, .error fault) => (fs, .error fault)
  | (fs, .ok _) =>
      let q := plain p
      match fs.walk q with
      | .error fault => (fs, .error fault)
      | .ok (_, name) =>
          if name = "" || fs.isFolder q then (fs, .error .folder)
          else if partLimit < name.utf8ByteSize then (fs, .error .longName)
          else ({ fs with contents := fs.contents.insertNew q.text "" }, .ok ())

def append (fs : Files) (p : Path) (text : String) : Files :=
  let name := (plain p).text
  { fs with contents := fs.contents.insert name ((fs.contents.get? name).getD "" ++ text) }

/-- The characters of a text with a line feed at the end of each line: a carriage return, and one
before a line feed, stand for it. -/
def lineFeeds : List Char → List Char
  | [] => []
  | '\r' :: '\n' :: cs => '\n' :: lineFeeds cs
  | c :: cs => (if c = '\r' then '\n' else c) :: lineFeeds cs

/-- The text of the file to which a path leads, as it is written: a slash at its end asks for a
folder. -/
def read (fs : Files) (path : String) : Except Fault String := do
  if path.isEmpty then throw .missingFile
  let parts := (splitChars '/' path.toList).map String.ofList
  let (folder, name) ← fs.walk { Path.ofString path with parts }
  if name = "" then throw .folder
  let q ← child folder name
  if fs.isFolder q then throw .folder
  match fs.contents.get? q.text with
  | some text => return String.ofList (lineFeeds text.toList)
  | none => throw .missingFile

end Files

end Meteo
