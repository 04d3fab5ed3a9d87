/-
# Meteo.Axis.Lookup -- the sample that a position belongs to

Each layout has its own search.  Evenly spaced samples are found by rounding the
number of steps from the start, a half going down.  Of points the nearest one
wins, the first of several equally near.  Touching cells are bisected: a cell owns
the edge at which it starts, and a falling scale is searched on its opposites.
Among cells with gaps the first that contains the position wins, and otherwise the
nearest.

Positions beyond either end belong to the sample at that end.  `Scale.find` refuses
positions that are not finite; with finite samples it always finds an index below
the size, which its type says.
-/
import Meteo.Axis.Scale

namespace Meteo

set_option autoImplicit false

/-- Halves the range of indices from `lo` up to `hi` until one is left, going right of the middle
where `goRight` says so. -/
def bisect (goRight : Nat → Bool) (lo hi : Nat) : Nat :=
  if lo < hi then
    let mid := lo + (hi - lo) / 2
    if goRight mid then bisect goRight (mid + 1) hi else bisect goRight lo mid
  else lo
termination_by hi - lo

inductive LookupFailure where
  /-- The position that is looked up is infinite or no number. -/
  | notFinite
  /-- The number of steps from the start is infinite or no number. -/
  | steps (why : Unrounded)
  /-- Falling edges have no opposites to search. -/
  | noOpposite
  deriving Repr, DecidableEq

namespace Scale

variable {α : Type} [Ordinate α]

open Ordinate

/-- The index with the least key among the first `k + 1`, the first of several; a key that is no
number counts as least. -/
def leastUpTo {n : Nat} (key : Fin n → α) : (k : Nat) → k < n → Fin n
  | 0, h => ⟨0, h⟩
  | k + 1, h =>
      let best := leastUpTo key k (by omega)
      if isNaN (key best) then best
      else if isNaN (key ⟨k + 1, h⟩) || lt (key ⟨k + 1, h⟩) (key best) then ⟨k + 1, h⟩
      else best

def least {n : Nat} (h : 0 < n) (key : Fin n → α) : Fin n :=
  leastUpTo key (lastIndex h) (lastIndex h).isLt

/-- The index of `n` nearest to an integer. -/
def clamp {n : Nat} (h : 0 < n) (k : Int) : Fin n :=
  ⟨min k.toNat (n - 1), by omega⟩

/-- The evenly spaced sample nearest to a position; halfway between two, the lower index. -/
def findRegular (s : Scale α) (x : α) : Except Unrounded (Fin s.size) :=
  if eq s.step zero then .ok ⟨0, s.size_pos⟩
  else (ceil? ((x - s.start) / s.step - half)).map (clamp s.size_pos)

def findPoint {n : Nat} (h : 0 < n) (values : Vector α n) (x : α) : Fin n :=
  least h fun i => abs (values[i] - x)

/-- The number of edges not beyond a position, by bisection. -/
def edgesUpTo {n : Nat} (values : Vector α n) (x : α) : Nat :=
  bisect
    (fun i => if h : i < n then !lt (widest x) values[i] && !isNaN values[i] else false) 0 n

def isFalling {n : Nat} (values : Vector α (n + 1)) : Bool := lt values[n] values[0]

/-- The cell between whose edges a position lies. -/
def findEdge {n : Nat} (h : 0 < n) (values : Vector α (n + 1)) (x : α) : Fin n :=
  if isFalling values then clamp h ((edgesUpTo (values.map (- ·)) (-x) : Int) - 1)
  else clamp h ((edgesUpTo values x : Int) - 1)

/-- The lesser of two bounds; one that is no number wins. -/
def lower (b : α × α) : α := if isNaN b.1 || le b.1 b.2 then b.1 else b.2

/-- The greater of two bounds; one that is no number wins. -/
def upper (b : α × α) : α := if isNaN b.1 || le b.2 b.1 then b.1 else b.2

/-- How far a position lies outside a cell. -/
def gap (b : α × α) (x : α) : α := if lt x (lower b) then lower b - x else x - upper b

/-- The first cell that contains a position, or the nearest cell. -/
def findCell {n : Nat} (h : 0 < n) (bounds : Vector (α × α) n) (x : α) : Fin n :=
  match (List.finRange n).find? fun i => le (lower bounds[i]) x && le x (upper bounds[i]) with
  | some i => i
  | none => least h fun i => gap bounds[i] x

def find (s : Scale α) (x : α) : Except LookupFailure (Fin s.size) :=
  if !isFinite x then .error .notFinite
  else if s.size = 1 then .ok ⟨0, s.size_pos⟩
  else
    match s.layout with
    | .points values => .ok (findPoint s.size_pos values x)
    | .edges values =>
        if isFalling values && !hasOpposite values[0] then .error .noOpposite
        else .ok (findEdge s.size_pos values x)
    | .cells bounds => .ok (findCell s.size_pos bounds x)
    | .regular => (s.findRegular x).mapError .steps

end Scale

end Meteo
