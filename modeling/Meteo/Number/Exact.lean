/-
# Meteo.Number.Exact -- what a double stands for, and the double nearest to a fraction

A double is a sign and a natural multiple of a power of two, an infinity, or no
number at all.  `Exact.ofFloat` reads that off the bits, and everything in this
library that has to know the exact value of a double (its decimal text, its
ceiling, its remainder by a full circle) starts from there.

The way back is `BinaryFormat.nearest`: the member of a binary format nearest to
a quotient of two natural numbers, ties going to the even multiple.  It serves
both widths, `BinaryFormat.double` and `BinaryFormat.single`; a single is kept as
the double of the same value.
-/

namespace Meteo

set_option autoImplicit false

/-- The value of a double: `mantissa * 2 ^ exponent` with a sign, an infinity, or no number. -/
inductive Exact where
  | nan
  | infinite (negative : Bool)
  | finite (negative : Bool) (mantissa : Nat) (exponent : Int)
  deriving Repr, DecidableEq, Inhabited

namespace Exact

/-- Reads the sign, the exponent field and the fraction field of a double. -/
def ofFloat (x : Float) : Exact :=
  let bits : Nat := x.toBits.toNat
  let negative := bits / Nat.pow 2 63 % 2 == 1
  let field : Nat := bits / Nat.pow 2 52 % Nat.pow 2 11
  let fraction : Nat := bits % Nat.pow 2 52
  if field = 2047 then
    if fraction = 0 then .infinite negative else .nan
  else if field = 0 then .finite negative fraction (-1074)
  else .finite negative (fraction + Nat.pow 2 52) ((field : Int) - 1075)

/-- The quotient `numerator / denominator` that a multiple of a power of two is. -/
def fraction (mantissa : Nat) (exponent : Int) : Nat × Nat :=
  if 0 ≤ exponent then (mantissa * Nat.pow 2 exponent.toNat, 1)
  else (mantissa, Nat.pow 2 (-exponent).toNat)

def signed (negative : Bool) (n : Nat) : Int := if negative then -(n : Int) else n

/-- The least integer that is not below the value; infinities and nan have none. -/
def ceil? : Exact → Option Int
  | .finite negative m q =>
      let (num, den) := fraction m q
      some (-((-(signed negative num)).fdiv den))
  | _ => none

/-- The double with these fields.  The multiple must fit: at most 53 bits above `2 ^ -1074`. -/
def toFloat : Exact → Float
  | .nan => Float.ofBits 0x7ff8000000000000
  | .infinite negative => Float.ofBits (if negative then 0xfff0000000000000 else 0x7ff0000000000000)
  | .finite negative m q =>
      let sign : Nat := if negative then Nat.pow 2 63 else 0
      if m = 0 then Float.ofBits (UInt64.ofNat sign)
      else
        -- the multiple is shifted until it has 53 bits or the lowest exponent is reached
        let shift : Int := min (52 - (m.log2 : Int)) (q + 1074)
        let scaled : Nat :=
          if 0 ≤ shift then m * Nat.pow 2 shift.toNat else m / Nat.pow 2 (-shift).toNat
        let field : Nat := (q - shift + 1074).toNat
        Float.ofBits (UInt64.ofNat (sign + field * Nat.pow 2 52 + scaled))

end Exact

/-- The binary formats: so many bits of precision, exponents from `least` to `greatest`. -/
structure BinaryFormat where
  precision : Nat
  least : Int
  greatest : Int
  deriving Repr, DecidableEq

/-- The natural number nearest to `n / d`, a tie going to the even one. -/
def roundDiv (n d : Nat) : Nat :=
  let low := n / d
  let rest := n % d
  if 2 * rest < d then low
  else if 2 * rest = d then (if low % 2 = 0 then low else low + 1)
  else low + 1

namespace BinaryFormat

def double : BinaryFormat := ⟨53, -1074, 971⟩

def single : BinaryFormat := ⟨24, -149, 104⟩

/-- `num / den` divided by `2 ^ q`, rounded to the nearest natural number, ties to even. -/
def scaledRound (num den : Nat) (q : Int) : Nat :=
  if 0 ≤ q then roundDiv num (den * Nat.pow 2 q.toNat)
  else roundDiv (num * Nat.pow 2 (-q).toNat) den

/-- The member of the format nearest to `num / den`, ties to the even multiple. -/
def nearest (f : BinaryFormat) (negative : Bool) (num den : Nat) : Exact :=
  if num = 0 then .finite negative 0 f.least
  else
    let estimate : Int := (num.log2 : Int) - (den.log2 : Int) - (f.precision - 1)
    -- the quotient has `precision` or `precision - 1` bits at this exponent
    let tooFew :=
      if 0 ≤ estimate then num < den * Nat.pow 2 estimate.toNat * Nat.pow 2 (f.precision - 1)
      else num * Nat.pow 2 (-estimate).toNat < den * Nat.pow 2 (f.precision - 1)
    let q := max f.least (if tooFew then estimate - 1 else estimate)
    let m := scaledRound num den q
    if m = Nat.pow 2 f.precision then
      if q + 1 > f.greatest then .infinite negative
      else .finite negative (Nat.pow 2 (f.precision - 1)) (q + 1)
    else if q > f.greatest then .infinite negative
    else .finite negative m q

end BinaryFormat

namespace Double

/-- The double nearest to a quotient of natural numbers. -/
def nearest (negative : Bool) (num den : Nat) : Float :=
  (BinaryFormat.double.nearest negative num den).toFloat

def toSingle (x : Float) : Float :=
  match Exact.ofFloat x with
  | .finite negative m q =>
      let (num, den) := Exact.fraction m q
      (BinaryFormat.single.nearest negative num den).toFloat
  | other => other.toFloat

/-- The double nearest to an integer, or none when it lies beyond the largest double. -/
def ofInt? (n : Int) : Option Float :=
  match BinaryFormat.double.nearest (n < 0) n.natAbs 1 with
  | .infinite _ => none
  | e => some e.toFloat

/-- The double nearest to an integer; an infinity beyond the largest double. -/
def ofInt (n : Int) : Float := nearest (n < 0) n.natAbs 1

end Double

end Meteo
