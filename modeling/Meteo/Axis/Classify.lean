/-
# Meteo.Axis.Classify -- the kind of spacing that samples show

Samples are evenly spaced when every step is close to the first one, relative to
its size; a step of zero is not even spacing, and a single sample is.  Cells touch
when each upper bound is close to the next lower bound, relative to the size of
the bounds themselves.  The two tests have tolerances of their own.

`classify` takes blocks of any shape, as they come; bounds that are not pairs are
a problem of the caller.
-/
import Meteo.Axis.Scale
import Meteo.Block
import Meteo.Error
import Meteo.Value

namespace Meteo

set_option autoImplicit false

namespace Spacing

variable {α : Type} [Ordinate α]

open Ordinate

def regularTolerance : α := tenth 5

/-- What each number of a list adds to the one before it. -/
def differences : List α → List α
  | a :: b :: rest => (b - a) :: differences (b :: rest)
  | _ => []

/-- Whether all steps are close to the first one. -/
def isEven (rtol : α) : List α → Bool
  | [] => true
  | first :: steps =>
      !eq first zero && (first :: steps).all isFinite &&
        (first :: steps).all fun step => close rtol (abs first * rtol) step first

/-- Whether samples are evenly spaced.  Two samples are, unless they are equal. -/
def isRegular (rtol : α) (values : List α) : Bool :=
  match values with
  | [a, b] => !eq b a
  | values => isEven rtol (differences values)

/-- Whether each cell ends where the next one begins. -/
def isContiguous : List (α × α) → Bool
  | b :: c :: rest => close (tenth 5) (tenth 8) b.2 c.1 && isContiguous (c :: rest)
  | _ => true

/-- Whether a block of samples is evenly spaced.  In a block of several dimensions the steps run
along the last one, and it must leave a single step in front. -/
def isRegularBlock (rtol : α) (b : Block α) : Except Fault Bool :=
  let values := b.cells.toList
  if values.length ≤ 1 then .ok true
  else if b.rank = 1 then .ok (isRegular rtol values)
  else if values.length = 2 then
    if b.shape.head? = some 2 then .ok (isRegular rtol values) else .error .badIndex
  else
    let width := b.shape.getLastD 1
    let rows :=
      (List.range (values.length / width)).map fun i => (values.drop (i * width)).take width
    let steps := rows.map differences
    let leading := (steps.take (steps.length / b.shape.headD 1)).flatten
    if leading.length = 1 then .ok (isEven rtol steps.flatten) else .error .badValue

def isContiguousBlock (bounds : Block α) : Except Problem Bool :=
  match bounds.shape with
  | [n, 2] => .ok (((bounds.pairs? n).map fun b => isContiguous b.toList).getD true)
  | shape => .error (.boundsShape shape)

/-- The kind of spacing of samples and perhaps the bounds of their cells.  `regular` is what the
source says of even spacing; when it says nothing the samples decide. -/
def ofSamples (values : Block α) (bounds : Option (Block α)) (regular : Option Bool) :
    Except Error Spacing := do
  let isRegular ←
    match regular with
    | some r => .ok r
    | none => (isRegularBlock regularTolerance values).mapError Error.fault
  match bounds with
  | none => return classify isRegular false false
  | some b => do
      let contiguous ← (isContiguousBlock b).mapError Error.invalid
      return classify isRegular true contiguous

def ofCode (code : Value) : Except Error Spacing :=
  match find? fun n => code.isNumber n with
  | some s => .ok s
  | none => .error (.invalid (.unknownSpacingCode code.shown))

end Spacing

end Meteo
