/-
# Meteo.Log.Level -- the names of levels

A level is a number; the usual ones have names, some of them two.  A level is given
as a number or by its name, without regard to case; a word that names no level
stands for the level that the situation suggests.  A truth value counts as one or
zero, and where it was given it is shown as it is.
-/
import Meteo.Log
import Meteo.Text.Case
import Meteo.Value

namespace Meteo.Log

set_option autoImplicit false

namespace Level

def unset : Int := 0

/-- The levels by name; of two names the first one is written. -/
def named : List (String × Int) :=
  [("CRITICAL", critical), ("FATAL", critical), ("ERROR", error), ("WARNING", warning),
    ("WARN", warning), ("INFO", info), ("DEBUG", debug), ("NOTSET", unset)]

/-- The name of a level; one without a name is called by its number. -/
def text (level : Int) : String :=
  match named.find? fun e => e.2 = level with
  | some e => e.1
  | none => "Level " ++ Decimal.intText level

/-- Words that name something other than a level, and how they fail. -/
def reserved : List (String × Fault) := [("BASIC_FORMAT", .badValue), ("_STYLES", .badKind)]

end Level

/-- The level from which on entries count, as it was given. -/
inductive Threshold where
  | level (n : Int)
  | truth (b : Bool)
  deriving Repr, DecidableEq

namespace Threshold

def number : Threshold → Int
  | level n => n
  | truth b => if b then 1 else 0

def ofName (default : Int) (name : String) : Except Fault Threshold :=
  let name := Text.upper name
  match Level.reserved.lookup name with
  | some fault => .error fault
  | none => .ok (.level ((Level.named.lookup name).getD default))

def ofValue (default : Int) : Value → Except Fault Threshold
  | .int n => .ok (.level n)
  | .bool b => .ok (.truth b)
  | .string s => ofName default s
  | _ => .error .badKind

end Threshold

end Meteo.Log
