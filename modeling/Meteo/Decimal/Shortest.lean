/-
# Meteo.Decimal.Shortest -- the fewest decimal digits that read back as the same number

Between a member of a binary format and each of its neighbours lies a midpoint; the
reals strictly between the two midpoints read back as that member, and so do the
midpoints themselves when its multiple is even.  `Decimal.shortest` takes the
coarsest decimal grid that has a point in this interval, and on it the point nearest
to the member.

A grid point in the interval exists exactly when one of the two points around the
member lies in it, so two candidates per grid are enough, and seventeen digits
always suffice for doubles and singles.
-/
import Meteo.Number.Exact

namespace Meteo

set_option autoImplicit false

/-- The number `digits * 10 ^ exponent`. -/
structure Decimal where
  digits : Nat
  exponent : Int
  deriving Repr, DecidableEq, Inhabited

namespace Decimal

/-- The same number without zeros at the end of its digits, given as many divisions as `fuel`. -/
def trim (fuel : Nat) (d : Decimal) : Decimal :=
  match fuel with
  | 0 => d
  | fuel + 1 =>
      if d.digits ≠ 0 && d.digits % 10 = 0 then trim fuel ⟨d.digits / 10, d.exponent + 1⟩ else d

/-- `num / den` in units of `10 ^ e`, as a quotient of natural numbers. -/
def inUnits (num den : Nat) (e : Int) : Nat × Nat :=
  if 0 ≤ e then (num, den * Nat.pow 10 e.toNat) else (num * Nat.pow 10 (-e).toNat, den)

/-- The number of digits before the decimal point: the least `k` with `num / den < 10 ^ k`.
The search starts at or below it and climbs at most `fuel` steps. -/
def climb (num den : Nat) (fuel : Nat) (k : Int) : Int :=
  match fuel with
  | 0 => k
  | fuel + 1 =>
      let (n, d) := inUnits num den k
      if n < d then k else climb num den fuel (k + 1)

/-- The least `k` with `num / den < 10 ^ k`. -/
def magnitude (num den : Nat) : Int :=
  let bits : Int := (num.log2 : Int) - den.log2 - 1
  climb num den 5 (bits * 30103 / 100000 - 1)

/-- The reals that read back as `mantissa * 2 ^ exponent`, each end as a numerator over a common
denominator, and whether the ends belong to it. -/
structure Interval where
  low : Nat
  value : Nat
  high : Nat
  den : Nat
  closed : Bool

namespace Interval

/-- The least multiple of full precision has a nearer neighbour below, unless the exponent is
already lowest. -/
def ofMultiple (f : BinaryFormat) (mantissa : Nat) (exponent : Int) : Interval :=
  let below := if mantissa = Nat.pow 2 (f.precision - 1) && f.least < exponent then 1 else 2
  let scale (n : Nat) := (Exact.fraction n (exponent - 2)).1
  { low := scale (4 * mantissa - below)
    value := scale (4 * mantissa)
    high := scale (4 * mantissa + 2)
    den := (Exact.fraction mantissa (exponent - 2)).2
    closed := mantissa % 2 = 0 }

/-- Whether `c * 10 ^ e` lies in the interval. -/
def contains (i : Interval) (c : Nat) (e : Int) : Bool :=
  let (lo, d) := inUnits i.low i.den e
  let (hi, _) := inUnits i.high i.den e
  if i.closed then lo ≤ c * d && c * d ≤ hi else lo < c * d && c * d < hi

/-- The point of the grid `10 ^ e` that reads back: of two, the nearer, and of two equally near
the even one. -/
def pick? (i : Interval) (e : Int) : Option Nat :=
  let (v, d) := inUnits i.value i.den e
  let c := v / d
  let rest := v % d
  match i.contains c e, i.contains (c + 1) e with
  | true, true =>
      if 2 * rest < d then some c
      else if 2 * rest = d then (if c % 2 = 0 then some c else some (c + 1))
      else some (c + 1)
  | true, false => some c
  | false, true => some (c + 1)
  | false, false => none

/-- Tries grids of one, two, three and more digits, at most `fuel` of them. -/
def search (i : Interval) (fuel : Nat) (e : Int) : Decimal :=
  match fuel with
  | 0 => ⟨0, 0⟩
  | fuel + 1 =>
      match i.pick? e with
      | some c => ⟨c, e⟩
      | none => i.search fuel (e - 1)

end Interval

/-- The decimal of fewest digits that reads back as the member `mantissa * 2 ^ exponent` of a
format. -/
def shortest (f : BinaryFormat) (mantissa : Nat) (exponent : Int) : Decimal :=
  if mantissa = 0 then ⟨0, 0⟩
  else
    let i := Interval.ofMultiple f mantissa exponent
    trim 2 (i.search 18 (magnitude i.value i.den - 1))

end Decimal

end Meteo
