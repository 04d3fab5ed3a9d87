/-
# Meteo.Dataset.Basic -- datasets of named variables

A variable has a dimension for each size of its cells.  A dataset has variables
under distinct names, attributes of its own, and perhaps the path it was read
from.  A variable is a coordinate when it bears the name of a dimension of the dataset
or is declared to be one; the others carry the data.  Along a dimension all variables
have the same size, and `Dataset.ofVariables` refuses any others.

Variables are addressed by dimension, not by position: `Variable.cellAt?` takes the
index along each dimension by name, so the order in which a variable stores its
dimensions does not matter.
-/
import Meteo.Cells
import Meteo.Table

namespace Meteo

set_option autoImplicit false

structure Variable where
  name : Option String
  dims : List String
  attributes : Table Value
  cells : Cells

namespace Variable

def nameText (v : Variable) : String := v.name.getD "None"

def rank (v : Variable) : Nat := v.cells.shape.length

def sizeOf? (v : Variable) (dim : String) : Option Nat := (v.dims.zip v.cells.shape).lookup dim

def cellAt? (v : Variable) (index : List (String × Nat)) : Option Cell := do
  v.cells.block.get? (← v.dims.mapM fun dim => index.lookup dim)

/-- The variable with one dimension in front of the others; none if it has no such dimension, or
any dimension more than once. -/
def leading? (v : Variable) (dim : String) : Option Variable :=
  if v.dims.contains dim && v.dims.eraseDups.length = v.dims.length then
    let dims := dim :: v.dims.erase dim
    let shape := dims.map fun d => (v.sizeOf? d).getD 0
    some { v with
      dims
      cells := { v.cells with
        block := Block.ofFn shape fun index => (v.cellAt? (dims.zip index)).getD (.value .null) } }
  else none

/-- The variable with nothing but one index left of a dimension, wherever it has that dimension. -/
def only (v : Variable) (dim : String) (k : Nat) : Variable :=
  if v.dims.contains dim then
    let shape := (v.dims.zip v.cells.shape).map fun (d, n) => if d = dim then min 1 (n - k) else n
    { v with
      cells := { v.cells with
        block := Block.ofFn shape fun index =>
          let index := (v.dims.zip index).map fun (d, i) => if d = dim then i + k else i
          (v.cells.block.get? index).getD (.value .null) } }
  else v

end Variable

structure Dataset where
  vars : Table Variable
  attributes : Table Value := .empty
  declared : List String := []
  source : Option String := none

namespace Dataset

def sizeOf? (ds : Dataset) (dim : String) : Option Nat :=
  ds.vars.entries.findSome? fun e => e.2.sizeOf? dim

def isDimension (ds : Dataset) (name : String) : Bool :=
  ds.vars.entries.any fun e => e.2.dims.contains name

def isCoordinate (ds : Dataset) (name : String) : Bool :=
  ds.vars.contains name && (ds.isDimension name || ds.declared.contains name)

def coordinates (ds : Dataset) : List (String × Variable) :=
  ds.vars.entries.filter fun e => ds.isCoordinate e.1

def dataVariables (ds : Dataset) : List (String × Variable) :=
  ds.vars.entries.filter fun e => !ds.isCoordinate e.1

/-- Whether a variable has a size for each dimension, the one that the dimension has in the
dataset, and is not without dimensions under the name of one. -/
def fits (ds : Dataset) (name : String) (v : Variable) : Bool :=
  v.dims.length = v.rank &&
    (v.dims.zip v.cells.shape).all (fun (dim, n) => ds.sizeOf? dim = some n) &&
    (v.rank ≠ 0 || !ds.isDimension name)

/-- The dataset of variables under their names, if they fit together. -/
def ofVariables (vars : List Variable) (attributes : Table Value) (declared : List String)
    (source : Option String) : Except Fault Dataset :=
  let vars := Table.ofList (vars.map fun v => (v.nameText, v))
  let ds : Dataset := { vars, attributes, declared, source }
  if ds.vars.entries.all fun (name, v) => ds.fits name v then .ok ds else .error .badValue

def sourceText (ds : Dataset) : String := ds.source.getD ""

def shownName (name : String) : String := if name.isEmpty then "<memory>" else name

end Dataset

end Meteo
