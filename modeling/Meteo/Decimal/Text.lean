/-
# Meteo.Decimal.Text -- the texts of a double

Five texts, each a choice of digits and a choice of layout:

* `Double.text`: the fewest digits that read back, positional while the leading
  digit stands between `10 ^ -4` and `10 ^ 15`, always with a decimal point or an
  exponent.  This is how a value, a bound or a coordinate is shown.
* `Double.singleText`: the fewest digits that read back as the same single, positional
  from `10 ^ -4` up to `10 ^ 6`.
* `Double.fixed`: so many places.  This is how responses write latitudes and
  longitudes.
* `Double.general`: six significant digits without zeros at the end.  This is how
  responses write altitudes.
* `Double.scientific`: one digit, so many places, and an exponent.

Infinities and the double that is no number have the same words in all of them, and
a negative zero keeps its sign.
-/
import Meteo.Decimal.Rounded

namespace Meteo

set_option autoImplicit false

namespace Decimal

def digitText (n : Nat) : String := String.ofList (Nat.toDigits 10 n)

def zeros (n : Nat) : String := String.ofList (List.replicate n '0')

/-- The digits padded with zeros in front to so many places. -/
def padded (width n : Nat) : String :=
  let s := digitText n
  zeros (width - s.length) ++ s

def leading (d : Decimal) : Int := (digitText d.digits).length - 1 + d.exponent

/-- The digits before and after the decimal point; the part before it is never empty. -/
def split (d : Decimal) : String × String :=
  if 0 ≤ d.exponent then (digitText (d.digits * Nat.pow 10 d.exponent.toNat), "")
  else
    let places := (-d.exponent).toNat
    let unit := Nat.pow 10 places
    (digitText (d.digits / unit), padded places (d.digits % unit))

/-- `after` behind a decimal point, or nothing. -/
def point (after : String) : String := if after.isEmpty then "" else "." ++ after

def exponentText (e : Int) : String :=
  "e" ++ (if e < 0 then "-" else "+") ++ padded 2 e.natAbs

/-- One digit, the others behind the point, and the exponent of the leading digit. -/
def scientific (d : Decimal) : String :=
  match (digitText d.digits).toList with
  | [] => ""
  | c :: cs => String.ofList [c] ++ point (String.ofList cs) ++ exponentText d.leading

end Decimal

/-- Which exponents of the leading digit are written positionally, and what stands for an empty
fraction there. -/
structure FloatLayout where
  least : Int
  below : Int
  emptyFraction : String

namespace FloatLayout

/-- Values are shown positionally from `10 ^ -4` up to `10 ^ 16`, with a fraction. -/
def value : FloatLayout := ⟨-4, 16, ".0"⟩

/-- Singles are shown positionally up to `10 ^ 6`, with a fraction. -/
def single : FloatLayout := ⟨-4, 6, ".0"⟩

/-- So many digits are shown positionally from `10 ^ -4` on while they reach behind the point,
without an empty fraction. -/
def general (count : Nat) : FloatLayout := ⟨-4, count, ""⟩

def write (l : FloatLayout) (d : Decimal) : String :=
  if l.least ≤ d.leading && d.leading < l.below then
    let (before, after) := d.split
    before ++ (if after.isEmpty then l.emptyFraction else "." ++ after)
  else d.scientific

end FloatLayout

namespace Double

/-- The sign and the words that all texts share; `body` writes a magnitude. -/
def withSign (x : Float) (body : Nat → Int → String) : String :=
  match Exact.ofFloat x with
  | .nan => "nan"
  | .infinite negative => if negative then "-inf" else "inf"
  | .finite negative m q => (if negative then "-" else "") ++ body m q

/-- The fewest digits that read back. -/
def text (x : Float) : String :=
  withSign x fun m q => FloatLayout.value.write (Decimal.shortest .double m q)

/-- The multiple and the exponent that stand for a finite magnitude in a binary format. -/
def multiple (f : BinaryFormat) (m : Nat) (q : Int) : Nat × Int :=
  let (num, den) := Exact.fraction m q
  match f.nearest false num den with
  | .finite _ m q => (m, q)
  | _ => (m, q)

/-- The fewest digits that read back as the same single, held as a double.  A single below
`10 ^ -4` itself has an exponent even if its digits are those of `10 ^ -4`. -/
def singleText (x : Float) : String :=
  withSign x fun m q =>
    let (num, den) := Exact.fraction m q
    let (m, q) := multiple .single m q
    let d := Decimal.shortest .single m q
    if num ≠ 0 && num * Nat.pow 10 4 < den then d.scientific else FloatLayout.single.write d

def fixed (places : Nat) (x : Float) : String :=
  withSign x fun m q =>
    let (num, den) := Exact.fraction m q
    let (before, after) := (Decimal.toPlaces num den places).split
    before ++ Decimal.point after

/-- So many significant digits, without zeros at the end, and an exponent for numbers with more
digits before the point than that. -/
def generalTo (count : Nat) (x : Float) : String :=
  withSign x fun m q =>
    let (num, den) := Exact.fraction m q
    let count := max 1 count
    (FloatLayout.general count).write ((Decimal.toSignificant num den count).trim count)

/-- Six significant digits, without zeros at the end. -/
def general (x : Float) : String := generalTo 6 x

/-- One digit before the point, so many behind it, and an exponent. -/
def scientific (places : Nat) (x : Float) : String :=
  withSign x fun m q =>
    let (num, den) := Exact.fraction m q
    if num = 0 then "0" ++ Decimal.point (Decimal.zeros places) ++ "e+00"
    else (Decimal.toSignificant num den (places + 1)).scientific

end Double

end Meteo
