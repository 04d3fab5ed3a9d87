/-
# Meteo.Decimal.Rounded -- a fraction rounded to a decimal grid

Two ways to say where the rounding happens: after a number of places, or after a
number of significant digits.  Both round the exact value, a tie going to the
even digit, so a double that lies just below a tie is never rounded up to it.
-/
import Meteo.Decimal.Shortest

namespace Meteo.Decimal

set_option autoImplicit false

/-- `num / den` rounded to the grid `10 ^ e`. -/
def onGrid (num den : Nat) (e : Int) : Decimal :=
  let (n, d) := inUnits num den e
  ⟨roundDiv n d, e⟩

/-- `num / den` rounded to so many places after the decimal point. -/
def toPlaces (num den places : Nat) : Decimal := onGrid num den (-(places : Int))

/-- `num / den` rounded to exactly `count` significant digits; zero is the digit zero. -/
def toSignificant (num den count : Nat) : Decimal :=
  if num = 0 then ⟨0, 0⟩
  else
    let d := onGrid num den (magnitude num den - count)
    if d.digits = Nat.pow 10 count then ⟨Nat.pow 10 (count - 1), d.exponent + 1⟩ else d

end Meteo.Decimal
