/-
# Meteo.Value -- the values of attributes, criteria and observations

An attribute or an observed value is a truth value, an integer of any size, a
double, a text, a row of bytes, a list, or missing.  A value has two texts.  The
`shown` one is what responses and messages write for it; in the `quoted` one a
text stands between quotes, so that one sees where it ends.  They differ only in
texts, and inside a list every item is quoted.

Integers of more digits than `Decimal.longest` are calculated with, but not written: a
value with such an integer in it has no text (`hasText`), and a response that is to show
it fails.
-/
import Meteo.Decimal.Text
import Meteo.Decimal.Reading
import Meteo.Text.Quoted

namespace Meteo

set_option autoImplicit false

inductive Value where
  | null
  | bool (b : Bool)
  | int (n : Int)
  | float (x : Float)
  | string (s : String)
  | bytes (bs : List UInt8)
  | list (items : List Value)
  deriving Inhabited

namespace Decimal

def intText (n : Int) : String := (if n < 0 then "-" else "") ++ digitText n.natAbs

/-- The most digits of an integer that is written. -/
def longest : Nat := 4300

/-- Whether an integer has no more digits than that. -/
def isWritten (n : Int) : Bool := (Nat.toDigits 10 n.natAbs).length ≤ longest

end Decimal

namespace Value

mutual

def quoted : Value → String
  | null => "None"
  | bool b => if b then "True" else "False"
  | int n => Decimal.intText n
  | float x => Double.text x
  | string s => Text.quoted s
  | bytes bs => Text.quotedBytes bs
  | list items => "[" ++ quotedItems items ++ "]"

def quotedItems : List Value → String
  | [] => ""
  | [v] => v.quoted
  | v :: vs => v.quoted ++ ", " ++ quotedItems vs

end

def shown : Value → String
  | string s => s
  | v => v.quoted

mutual

/-- Whether a value has a text, which integers of too many digits do not have. -/
def hasText : Value → Bool
  | int n => Decimal.isWritten n
  | list items => allHaveText items
  | _ => true

def allHaveText : List Value → Bool
  | [] => true
  | v :: vs => v.hasText && allHaveText vs

end

/-- Whether a value counts as given: it is not missing, false, zero or empty. -/
def isGiven : Value → Bool
  | null => false
  | bool b => b
  | int n => n != 0
  | float x => !(x == 0.0)
  | string s => !s.isEmpty
  | bytes bs => !bs.isEmpty
  | list items => !items.isEmpty

/-- Whether a value is this number: a truth value counts as 0 or 1, a double by its value. -/
def isNumber (v : Value) (n : Int) : Bool :=
  match v with
  | bool b => (if b then 1 else 0) = n
  | int m => m = n
  | float x => x == Double.ofInt n
  | _ => false

end Value

/-- Texts between quotes as the items of a list. -/
def quotedNames (names : List String) : String := (Value.list (names.map Value.string)).quoted

end Meteo
