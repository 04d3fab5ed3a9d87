/-
# Meteo.Text.Path -- file paths in their plain form

The plain form of a path has single slashes between its parts and no parts that
are a single dot.  Two slashes in front are kept as they are, three or more are
one.  A path without parts is the dot, or its slashes.
-/

namespace Meteo.Text

set_option autoImplicit false

/-- The pieces of a list between the occurrences of a separator. -/
def splitChars (sep : Char) : List Char → List (List Char)
  | [] => [[]]
  | c :: cs =>
      if c = sep then [] :: splitChars sep cs
      else
        match splitChars sep cs with
        | [] => [[c]]
        | piece :: pieces => (c :: piece) :: pieces

structure Path where
  root : String
  parts : List String
  deriving Repr, DecidableEq

namespace Path

def ofString (s : String) : Path :=
  let cs := s.toList
  let slashes := (cs.takeWhile (· = '/')).length
  { root := if slashes = 0 then "" else if slashes = 2 then "//" else "/"
    parts := ((splitChars '/' cs).map String.ofList).filter fun p => p ≠ "" && p ≠ "." }

def text (p : Path) : String :=
  if p.root = "" && p.parts.isEmpty then "." else p.root ++ "/".intercalate p.parts

/-- The last part; a path without parts has an empty name. -/
def name (p : Path) : String := p.parts.getLastD ""

end Path

end Meteo.Text
