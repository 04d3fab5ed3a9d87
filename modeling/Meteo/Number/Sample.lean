/-
# Meteo.Number.Sample -- numbers that keep the format they were stored in

Positions that are handed over as they are stored may be doubles, singles, integers
of some width or truth values, and they are computed with in that format: singles
are rounded to singles after every step, integers of one width wrap around, and a
truth value added to another one is their disjunction.  A number of a formula, or of
a caller, has no format of its own: beside a single it becomes a single.  Whatever
else meets is computed in doubles, and so is every quotient of integers.

`Sample` is an `Ordinate`, so the formulas for axes are written once for all formats.
-/
import Meteo.Number.Ordinate

namespace Meteo

set_option autoImplicit false

structure WordFormat where
  isSigned : Bool
  bits : Nat
  deriving Repr, DecidableEq

namespace WordFormat

/-- The integer of the format that an integer wraps around to. -/
def wrap (f : WordFormat) (n : Int) : Int :=
  let size : Int := Nat.pow 2 f.bits
  let r := n % size
  if f.isSigned && size ≤ 2 * r then r - size else r

end WordFormat

/-- A number with the format it is computed in. -/
inductive Sample where
  /-- A number without a format of its own. -/
  | plain (x : Float)
  | double (x : Float)
  /-- A single, held as the double of the same value. -/
  | single (x : Float)
  | word (format : WordFormat) (n : Int)
  | truth (b : Bool)
  deriving Inhabited

namespace Sample

def toDouble : Sample → Float
  | plain x | double x | single x => x
  | word _ n => Double.ofInt n
  | truth b => if b then 1.0 else 0.0

/-- Computes with two numbers: in doubles, rounded to singles where a single takes part without
another format, and on integers of one width by a rule of their own. -/
def compute (onDoubles : Float → Float → Float) (onWords : Int → Int → Option Int) (x y : Sample) :
    Sample :=
  match x, y with
  | plain a, plain b => plain (onDoubles a b)
  | single a, single b => single (Double.toSingle (onDoubles a b))
  | single a, plain b => single (Double.toSingle (onDoubles a (Double.toSingle b)))
  | plain a, single b => single (Double.toSingle (onDoubles (Double.toSingle a) b))
  | word f a, word g b =>
      match onWords a b with
      | some n => if f = g then word f (f.wrap n) else double (onDoubles x.toDouble y.toDouble)
      | none => double (onDoubles x.toDouble y.toDouble)
  | _, _ => double (onDoubles x.toDouble y.toDouble)

/-- The sum; of truth values, their disjunction. -/
def add (x y : Sample) : Sample :=
  match x, y with
  | truth a, truth b => truth (a || b)
  | _, _ => compute (· + ·) (fun a b => some (a + b)) x y

/-- The opposite number, in the same format; a truth value has none and becomes a double. -/
def neg : Sample → Sample
  | plain x => plain (-x)
  | double x => double (-x)
  | single x => single (-x)
  | word f n => word f (f.wrap (-n))
  | truth b => double (-(truth b).toDouble)

/-- The distance from zero, in the same format. -/
def abs : Sample → Sample
  | plain x => plain x.abs
  | double x => double x.abs
  | single x => single x.abs
  | word f n => word f (f.wrap n.natAbs)
  | truth b => truth b

/-- Compares two numbers: integers exactly, singles with other numbers without a format as singles,
all others as doubles. -/
def compare (onDoubles : Float → Float → Bool) (onWords : Int → Int → Bool) (x y : Sample) : Bool :=
  match x, y with
  | single a, plain b => onDoubles a (Double.toSingle b)
  | plain a, single b => onDoubles (Double.toSingle a) b
  | word _ a, word _ b => onWords a b
  | _, _ => onDoubles x.toDouble y.toDouble

def hasOpposite : Sample → Bool
  | truth _ => false
  | _ => true

end Sample

instance : Ordinate Sample where
  add := Sample.add
  sub := Sample.compute (· - ·) fun a b => some (a - b)
  mul := Sample.compute (· * ·) fun a b => some (a * b)
  div := Sample.compute (· / ·) fun _ _ => none
  neg := Sample.neg
  ofNat n := .plain (Double.ofInt n)
  lt := Sample.compare Float.lt fun a b => a < b
  le := Sample.compare Float.le fun a b => a ≤ b
  eq := Sample.compare Float.beq fun a b => a = b
  abs := Sample.abs
  isFinite x := x.toDouble.isFinite
  isNaN x := x.toDouble.isNaN
  ceil? x := Double.ceil? x.toDouble
  wrap x n := .double (Double.wrap x.toDouble n)
  remainder? x n := (Double.remainder? x.toDouble n).map Sample.double
  widest x := .double x.toDouble
  hasOpposite := Sample.hasOpposite

instance : DoubleOrdinate Sample where
  ofDouble := Sample.plain
  toDouble := Sample.toDouble

end Meteo
