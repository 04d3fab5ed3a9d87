/-
# Meteo.Axis.Scale -- the positions of the samples along an axis

A scale has a number of samples, the positions of the first and the last one, and
a layout: nothing more for an evenly spaced axis, one position per sample, the
edges of cells that touch, or both bounds of each cell.  The layout carries
exactly as many numbers as the samples need.

From the layout follow the positions of the samples (`coordValues`), the edges of
the cells around them (`coordEdges?`) and the stored numbers in order
(`stored?`).
-/
import Meteo.Axis.Spacing
import Meteo.Number.Ordinate

namespace Meteo

set_option autoImplicit false

/-- What is stored of `n` samples. -/
inductive Layout (α : Type) (n : Nat) where
  | regular
  | points (values : Vector α n)
  | edges (values : Vector α (n + 1))
  | cells (bounds : Vector (α × α) n)

namespace Layout

def spacing {α : Type} {n : Nat} : Layout α n → Spacing
  | regular => .regular
  | points _ => .irregularPoint
  | edges _ => .contiguousInterval
  | cells _ => .discontiguousInterval

end Layout

/-- The positions of at least one sample. -/
structure Scale (α : Type) where
  size : Nat
  size_pos : 0 < size
  start : α
  stop : α
  layout : Layout α size

namespace Scale

variable {α : Type} [Ordinate α]

open Ordinate

def lastIndex {n : Nat} (h : 0 < n) : Fin n := ⟨n - 1, by omega⟩

def spacing (s : Scale α) : Spacing := s.layout.spacing

/-- The distance between the samples of an evenly spaced scale; zero for a single sample. -/
def step (s : Scale α) : α :=
  if s.size = 1 then zero else (s.stop - s.start) / ofNat (s.size - 1)

def resolution? (s : Scale α) : Option α :=
  match s.layout with
  | .regular => some s.step
  | _ => none

def isAscending (s : Scale α) : Bool := le s.start s.stop

def middle (x y : α) : α := (x + y) / ofNat 2

/-- The mean of two bounds.  Their sum begins at zero, which takes the sign from a zero. -/
def mean (b : α × α) : α := (zero + b.1 + b.2) / ofNat 2

/-- The `i`-th of `n` positions evenly spaced between two ends.  The last one is the end itself. -/
def evenly (start stop : α) (n i : Nat) : α :=
  let extent := stop - start
  if n = 1 then zero * extent + start
  else if i + 1 = n then stop
  else
    let step := extent / ofNat (n - 1)
    if eq step zero then ofNat i / ofNat (n - 1) * extent + start else ofNat i * step + start

/-- The position of a sample: of a cell, halfway between its edges or the mean of its bounds. -/
def coordValue (s : Scale α) (i : Fin s.size) : α :=
  match s.layout with
  | .regular => evenly s.start s.stop s.size i
  | .points values => values[i]
  | .edges values =>
      have := i.isLt
      middle values[i.val] values[i.val + 1]
  | .cells bounds => mean bounds[i]

def coordValues (s : Scale α) : Vector α s.size := Vector.ofFn s.coordValue

/-- The edges around points: halfway between neighbours, and beyond the outer ones by the same
distance as on the other side.  A single point has no extent. -/
def edgesAround {n : Nat} (h : 0 < n) (centers : Vector α n) : Vector α (n + 1) :=
  Vector.ofFn fun i : Fin (n + 1) =>
    have := i.isLt
    if single : n = 1 then centers[0]
    else if first : i.val = 0 then centers[0] - (middle centers[0] centers[1] - centers[0])
    else if last : i.val = n then
      centers[n - 1] + (centers[n - 1] - middle centers[n - 2] centers[n - 1])
    else middle centers[i.val - 1] centers[i.val]

/-- The edges of the cells; cells with gaps between them share none. -/
def coordEdges? (s : Scale α) : Option (Vector α (s.size + 1)) :=
  match s.layout with
  | .edges values => some values
  | .cells _ => none
  | _ => some (edgesAround s.size_pos s.coordValues)

/-- The stored numbers in order, the lower and the upper bound of a cell next to each other; an
evenly spaced scale stores none. -/
def stored? (s : Scale α) : Option (List α) :=
  match s.layout with
  | .regular => none
  | .points values => some values.toList
  | .edges values => some values.toList
  | .cells bounds => some (bounds.toList.flatMap fun b => [b.1, b.2])

end Scale

end Meteo
