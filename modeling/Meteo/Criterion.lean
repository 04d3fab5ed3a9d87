/-
# Meteo.Criterion -- criteria that requests write as text

A request may give the vertical position it wants as a text, under the key
`verticalKey`.  The text must write a finite number; a value of another kind is
read by its text, and a value without one is refused without a sentence.
-/
import Meteo.Error
import Meteo.Value
import Meteo.Text.Blank

namespace Meteo.Criterion

set_option autoImplicit false

def verticalKey : String := "Z"

def number (criterion : String) (v : Value) : Except Error Float :=
  if !v.hasText then .error (.fault .badValue)
  else
    match Double.read? (Text.strip v.shown) with
    | none => .error (Error.notANumber criterion v.shown)
    | some x => if x.isFinite then .ok x else .error (Error.notFiniteCriterion criterion v.shown)

end Meteo.Criterion
