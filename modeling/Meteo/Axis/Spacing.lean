/-
# Meteo.Axis.Spacing -- how the samples of an axis relate to its cells

A regular axis is described by its first and last value and the number of its
samples.  Otherwise the samples are points, or cells that share their edges, or
cells with gaps between them.  The codes are exchanged with other programs and
never change; they do not follow from the order of the names.
-/

namespace Meteo

set_option autoImplicit false

inductive Spacing where
  | regular
  | irregularPoint
  | contiguousInterval
  | discontiguousInterval
  deriving Repr, DecidableEq, Inhabited

namespace Spacing

def all : List Spacing := [regular, irregularPoint, contiguousInterval, discontiguousInterval]

def text : Spacing → String
  | regular => "regular"
  | irregularPoint => "irregularPoint"
  | contiguousInterval => "contiguousInterval"
  | discontiguousInterval => "discontiguousInterval"

/-- The code exchanged with other programs. -/
def code : Spacing → Nat
  | regular => 0
  | irregularPoint => 1
  | contiguousInterval => 2
  | discontiguousInterval => 3

def isInterval : Spacing → Bool
  | contiguousInterval | discontiguousInterval => true
  | _ => false

def find? (isCode : Nat → Bool) : Option Spacing := all.find? fun s => isCode s.code

/-- The first rule that applies decides.  Even spacing comes first, because an evenly spaced axis
is described by its ends and its size even when its samples are cells. -/
def classify (isRegular isInterval isContiguous : Bool) : Spacing :=
  if isRegular then regular
  else if !isInterval then irregularPoint
  else if isContiguous then contiguousInterval
  else discontiguousInterval

end Spacing

end Meteo
