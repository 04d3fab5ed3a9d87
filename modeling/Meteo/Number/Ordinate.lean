/-
# Meteo.Number.Ordinate -- the arithmetic that positions are computed in

Axes, bounding boxes and distances are computed twice in this library's life:
with doubles when it runs, and with exact fractions when something is said about
the formulas themselves.  `Ordinate` names the operations those formulas use and
gives both instances, so that one definition serves both readings.

A comparison is a `Bool`, because a double that is no number compares false with
everything.  `ceil?` and `remainder?` are partial: a double that is no number or
infinite has no ceiling, and an infinite one has no remainder.  `widest` and
`hasOpposite` matter only where numbers of several formats meet; doubles and
fractions are of one format and have opposites.
-/
import Meteo.Number.Exact

namespace Meteo

set_option autoImplicit false

inductive Unrounded where
  | notANumber
  | infinite
  deriving Repr, DecidableEq

/-- A kind of number in which positions on an axis or on the globe are measured. -/
class Ordinate (α : Type) extends Add α, Sub α, Mul α, Div α, Neg α where
  /-- The number of a count. -/
  ofNat : Nat → α
  /-- Strictly less; false when either side is no number. -/
  lt : α → α → Bool
  /-- At most; false when either side is no number. -/
  le : α → α → Bool
  /-- Equal as numbers; false when either side is no number. -/
  eq : α → α → Bool
  /-- The distance from zero. -/
  abs : α → α
  /-- Neither infinite nor missing. -/
  isFinite : α → Bool
  /-- Not a number at all. -/
  isNaN : α → Bool
  /-- The least integer that is not below. -/
  ceil? : α → Except Unrounded Int
  /-- The remainder in `[0, n)` by a positive `n`. -/
  wrap : α → Nat → α
  /-- The remainder of least distance from zero by a positive `n`, a tie going to the even
  quotient. -/
  remainder? : α → Nat → Except Unrounded α
  /-- The same number in the format in which numbers of all formats are ordered. -/
  widest : α → α
  /-- Whether there is an opposite number. -/
  hasOpposite : α → Bool

/-- Ordinates among which positions are given, and shown, as doubles. -/
class DoubleOrdinate (α : Type) extends Ordinate α where
  /-- The position that a double gives. -/
  ofDouble : Float → α
  /-- The double that shows a position. -/
  toDouble : α → Float

namespace Ordinate

variable {α : Type} [Ordinate α]

def half : α := (ofNat 1 : α) / ofNat 2

def zero : α := ofNat 0

def tenth (n : Nat) : α := (ofNat 1 : α) / ofNat (Nat.pow 10 n)

/-- Whether `x` lies within `atol + rtol * |y|` of `y`.  Equal numbers are close whatever the
tolerances, and only a finite `y` has a neighbourhood. -/
def close (rtol atol x y : α) : Bool :=
  le (abs (x - y)) (atol + rtol * abs y) && isFinite y || eq x y

end Ordinate

/-- The remainder of a magnitude by `n`, and the integer quotient. -/
def Exact.divide (mantissa : Nat) (exponent : Int) (n : Nat) : Nat × Nat :=
  let (num, den) := Exact.fraction mantissa exponent
  (num / (n * den), num % (n * den))

namespace Double

def ceil? (x : Float) : Except Unrounded Int :=
  match Exact.ofFloat x with
  | .nan => .error .notANumber
  | .infinite _ => .error .infinite
  | e => match e.ceil? with
    | some n => .ok n
    | none => .error .notANumber

/-- The double `r / den` for a remainder over the denominator of a double with this exponent. -/
def ofRemainder (negative : Bool) (r : Nat) (exponent : Int) : Float :=
  (Exact.finite negative r (min exponent 0)).toFloat

/-- The exact remainder takes the sign of the double; a negative one is then brought up by `n`,
which rounds, so that a tiny negative double wraps to `n` itself. -/
def wrap (x : Float) (n : Nat) : Float :=
  match Exact.ofFloat x with
  | .finite negative m q =>
      let r := (Exact.divide m q n).2
      if r = 0 then 0.0
      else if negative then ofRemainder true r q + ofInt n
      else ofRemainder false r q
  | other => other.toFloat - other.toFloat

/-- The remainder nearest to zero; it is exact, and a zero keeps the sign of the double. -/
def remainder? (x : Float) (n : Nat) : Except Unrounded Float :=
  match Exact.ofFloat x with
  | .nan => .ok x
  | .infinite _ => .error .infinite
  | .finite negative m q =>
      let (k, r) := Exact.divide m q n
      let whole := n * (Exact.fraction m q).2
      if 2 * r < whole || 2 * r = whole && k % 2 = 0 then .ok (ofRemainder negative r q)
      else .ok (ofRemainder (!negative) (whole - r) q)

end Double

instance : Ordinate Float where
  toAdd := instAddFloat
  toSub := instSubFloat
  toMul := instMulFloat
  toDiv := instDivFloat
  toNeg := instNegFloat
  ofNat n := Double.ofInt n
  lt x y := Float.lt x y
  le x y := Float.le x y
  eq x y := Float.beq x y
  abs := Float.abs
  isFinite := Float.isFinite
  isNaN := Float.isNaN
  ceil? := Double.ceil?
  wrap := Double.wrap
  remainder? := Double.remainder?
  widest x := x
  hasOpposite _ := true

instance : DoubleOrdinate Float where
  ofDouble x := x
  toDouble x := x

namespace Fraction

/-- The integer nearest to a fraction, a tie going to the even one. -/
def round (x : Rat) : Int :=
  let low := x.floor
  let rest := Rat.sub x (Rat.ofInt low)
  if 2 * rest.num < rest.den then low
  else if 2 * rest.num = rest.den then (if low % 2 = 0 then low else low + 1)
  else low + 1

/-- `x` less the multiple `k * n`. -/
def less (x : Rat) (k : Int) (n : Nat) : Rat := Rat.sub x (Rat.ofInt (k * n))

end Fraction

instance : Ordinate Rat where
  toAdd := Rat.instAdd
  toSub := Rat.instSub
  toMul := Rat.instMul
  toDiv := Rat.instDiv
  toNeg := Rat.instNeg
  ofNat n := Rat.ofInt n
  lt x y := Rat.blt x y
  le x y := !Rat.blt y x
  eq x y := @decide (x = y) (instDecidableEqRat x y)
  abs x := if x.num < 0 then Rat.neg x else x
  isFinite _ := true
  isNaN _ := false
  ceil? x := .ok x.ceil
  wrap x n := Fraction.less x (Rat.div x (Rat.ofInt n)).floor n
  remainder? x n := .ok (Fraction.less x (Fraction.round (Rat.div x (Rat.ofInt n))) n)
  widest x := x
  hasOpposite _ := true

end Meteo
