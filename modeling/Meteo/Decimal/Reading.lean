/-
# Meteo.Decimal.Reading -- the double that a text writes

A number is written with digits of any script, an optional sign, decimal point
and exponent, and single underscores between digits; `inf`, `infinity` and `nan`
stand for the doubles without digits.  The double nearest to the exact decimal is
read, ties going to the even multiple, so `Double.read?` inverts `Double.text`.
-/
import Meteo.Decimal.Shortest
import Meteo.Text.Blank
import Meteo.Text.Digit

namespace Meteo

set_option autoImplicit false

namespace Decimal

open Text

/-- The digits of other scripts as digits of ASCII, and other white space as the space. -/
def plainChar (c : Char) : Char :=
  if c.toNat < 0x80 then c
  else if isBlank c then ' '
  else match digit? c with
    | some n => Char.ofNat ('0'.toNat + n)
    | none => c

/-- White space of ASCII other than the information separators. -/
def isPlainBlank (c : Char) : Bool := c = ' ' || '\t' ≤ c && c ≤ '\r'

/-- Drops the underscores that stand between two digits; none if another one occurs.
`before` says whether a digit stands in front. -/
def dropUnderscores (before : Bool) : List Char → Option (List Char)
  | [] => some []
  | '_' :: cs =>
      match cs with
      | [] => none
      | c :: _ => if before && c.isDigit then dropUnderscores false cs else none
  | c :: cs => (dropUnderscores c.isDigit cs).map (c :: ·)

/-- The longest run of digits in front, and the rest. -/
def spanDigits (cs : List Char) : List Char × List Char :=
  (cs.takeWhile Char.isDigit, cs.dropWhile Char.isDigit)

/-- A sign in front, true for minus, and the rest. -/
def spanSign : List Char → Bool × List Char
  | '-' :: cs => (true, cs)
  | '+' :: cs => (false, cs)
  | cs => (false, cs)

def natOfDigits (cs : List Char) : Nat := cs.foldl (fun n c => 10 * n + (c.toNat - '0'.toNat)) 0

/-- The exponent behind the digits, which must end the text; without one it is zero. -/
def exponent? : List Char → Option Int
  | [] => some 0
  | c :: cs =>
      if c = 'e' || c = 'E' then
        let (negative, rest) := spanSign cs
        let (ds, rest) := spanDigits rest
        if ds.isEmpty || !rest.isEmpty then none
        else some (if negative then -(natOfDigits ds : Int) else natOfDigits ds)
      else none

/-- Reads the digits, the point and the exponent of an unsigned decimal. -/
def ofChars? (cs : List Char) : Option Decimal := do
  let (whole, rest) := spanDigits cs
  let (places, rest) :=
    match rest with
    | '.' :: rest => spanDigits rest
    | rest => ([], rest)
  if whole.isEmpty && places.isEmpty then none
  let e ← exponent? rest
  some ⟨natOfDigits (whole ++ places), e - places.length⟩

/-- The double nearest to a decimal.  Beyond the powers in which every double lies the digits no
longer matter. -/
def toDouble (negative : Bool) (d : Decimal) : Float :=
  let top : Int := (Nat.toDigits 10 d.digits).length + d.exponent
  if d.digits = 0 || top < -330 then Double.nearest negative 0 1
  else if 310 < top then (Exact.infinite negative).toFloat
  else if 0 ≤ d.exponent then Double.nearest negative (d.digits * Nat.pow 10 d.exponent.toNat) 1
  else Double.nearest negative d.digits (Nat.pow 10 (-d.exponent).toNat)

end Decimal

namespace Double

/-- Reads the characters of a number from which the white space has been taken. -/
def ofChars? (cs : List Char) : Option Float := do
  let cs ← Decimal.dropUnderscores false cs
  let (negative, cs) := Decimal.spanSign cs
  let word := String.ofList (cs.map Char.toLower)
  if word = "inf" || word = "infinity" then some (Exact.infinite negative).toFloat
  else if word = "nan" then some Exact.nan.toFloat
  else (Decimal.ofChars? cs).map (·.toDouble negative)

/-- The double that a text writes, white space around it aside. -/
def read? (s : String) : Option Float :=
  ofChars? (Text.trimBy Decimal.isPlainBlank (s.toList.map Decimal.plainChar))

/-- The double that a row of bytes writes; only ASCII occurs in numbers. -/
def readBytes? (bs : List UInt8) : Option Float :=
  ofChars? (Text.trimBy Decimal.isPlainBlank (bs.map fun b => Char.ofNat b.toNat))

end Double

end Meteo
