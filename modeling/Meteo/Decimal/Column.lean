/-
# Meteo.Decimal.Column -- numbers under each other

The numbers of a column are written with their points aligned.  Each shows the fewest
digits that read back, but no more than eight behind the point.  The column is
written with exponents when one of its numbers is too large or too small for its
format, or when the largest is more than a thousand times the smallest; then all
numbers have equally many digits behind the point and in the exponent.  Otherwise the
digits behind the point are filled up with blanks.

`Column.ofDoubles` finds the measures of a column and `Column.word` writes a number
in it.  Infinities and what is no number are set flush right and have no part in the
choice of the notation.
-/
import Meteo.Decimal.Text

namespace Meteo

set_option autoImplicit false

/-- The measures of a column of numbers. -/
structure Column where
  format : BinaryFormat
  hasExponents : Bool
  /-- Characters in front of the point. -/
  before : Nat
  /-- Digits behind the point. -/
  after : Nat
  /-- Digits of the exponents. -/
  exponent : Nat

namespace Column

/-- Digits behind the point are at most so many. -/
def places : Nat := 8

def positional (f : BinaryFormat) (m : Nat) (q : Int) : Decimal :=
  let (num, den) := Exact.fraction m q
  let (m, q) := Double.multiple f m q
  let d := Decimal.shortest f m q
  if -(places : Int) ≤ d.exponent then d else (Decimal.toPlaces num den places).trim places

def scientific (f : BinaryFormat) (m : Nat) (q : Int) : Decimal :=
  let (num, den) := Exact.fraction m q
  let (m, q) := Double.multiple f m q
  let d := Decimal.shortest f m q
  if (Decimal.digitText d.digits).length ≤ places + 1 then d
  else (Decimal.toSignificant num den (places + 1)).trim places

/-- A finite number in parts: what stands in front of the point, the digits behind it, and the
exponent of the leading digit. -/
structure Parts where
  before : String
  after : String
  exponent : Int

/-- The parts of a number; none if it is not finite. -/
def parts? (f : BinaryFormat) (hasExponents : Bool) (x : Float) : Option Parts :=
  match Exact.ofFloat x with
  | .finite negative m q =>
      let sign := if negative then "-" else ""
      if hasExponents then
        let d := scientific f m q
        match (Decimal.digitText d.digits).toList with
        | [] => none
        | c :: cs => some ⟨sign ++ String.ofList [c], String.ofList cs, d.leading⟩
      else
        let (before, after) := (positional f m q).split
        some ⟨sign ++ before, after, 0⟩
  | _ => none

/-- The number from which on a column has exponents: `10 ^ 8`, and less where the digits of the
format do not reach so far. -/
def largest (f : BinaryFormat) : Float :=
  Double.ofInt (Nat.pow 10 (min 8 ((f.precision - 1) * 30103 / 100000)))

def rounded (f : BinaryFormat) (x : Float) : Float :=
  if f = .single then Double.toSingle x else x

/-- Whether a column of these magnitudes, zero not among them, has exponents. -/
def needsExponents (f : BinaryFormat) (xs : List Float) : Bool :=
  match xs with
  | [] => false
  | x :: xs =>
      let greatest := xs.foldl (fun a b => if Float.lt a b then b else a) x
      let least := xs.foldl (fun a b => if Float.lt b a then b else a) x
      Float.le (largest f) greatest || Float.lt least (rounded f (Double.nearest false 1 10000)) ||
        Float.lt (Double.ofInt 1000) (rounded f (greatest / least))

def widest (ns : List Nat) : Nat := ns.foldl max 0

/-- Characters behind the point, the exponent among them. -/
def tail (c : Column) : Nat := c.after + if c.hasExponents then c.exponent + 2 else 0

def ofDoubles (f : BinaryFormat) (xs : List Float) : Column :=
  let finite := xs.filter Float.isFinite
  let hasExponents :=
    needsExponents f ((finite.filter fun x => !Float.beq x (Double.ofInt 0)).map Float.abs)
  let ps := finite.filterMap (parts? f hasExponents)
  let c : Column :=
    { format := f
      hasExponents
      before := widest (ps.map fun p => p.before.length)
      after := widest (ps.map fun p => p.after.length)
      exponent := widest (ps.map fun p => max 2 (Decimal.digitText p.exponent.natAbs).length) }
  -- words take three or four characters, one of them in the place of the point
  let words := if xs.any fun x => !x.isFinite && Float.lt x (Double.ofInt 0) then 4 else 3
  if finite.length = xs.length then c else { c with before := max c.before (words - (c.tail + 1)) }

def blanks (n : Nat) : String := String.ofList (List.replicate n ' ')

def right (width : Nat) (s : String) : String := blanks (width - s.length) ++ s

def word (c : Column) (x : Float) : String :=
  match parts? c.format c.hasExponents x with
  | none => right (c.before + c.tail + 1) (Double.text x)
  | some p =>
      let missing := c.after - p.after.length
      right c.before p.before ++ "." ++ p.after ++
        if c.hasExponents then
          Decimal.zeros missing ++ "e" ++ (if p.exponent < 0 then "-" else "+") ++
            Decimal.padded c.exponent p.exponent.natAbs
        else blanks missing

end Column

end Meteo
