/-
# Meteo.Cells.Text -- the texts of cells, alone and in blocks

A cell alone is shown like the value that it holds, a single by its own fewest
digits.  The cells of a block stand in brackets and under each other: numbers are
aligned, truth values and times set flush right, texts and bytes in quotes.

`Cells.rowText` writes the cells that share a first index; it is how a name is made
of an identity that has further dimensions.
-/
import Meteo.Cells
import Meteo.Decimal.Column
import Meteo.Text.Brackets

namespace Meteo

set_option autoImplicit false

namespace Cell

def shown (type : CellType) : Cell → String
  | .time (.instant t) => t.text
  | .time (.date t) => t.text " "
  | .value (.float x) => if type = .float32 then Double.singleText x else Double.text x
  | .value v => v.shown

def float? : Cell → Option Float
  | .value (.float x) => some x
  | _ => none

/-- A time between quotes; a missing one may be padded to a width. -/
def quotedTime (width : Nat) (t : Time.Instant) : String :=
  if t.isPresent then "'" ++ t.text ++ "'" else Column.right width ("'" ++ t.text ++ "'")

/-- The text of a cell among arbitrary values, where lists and times say what they are. -/
def quoted : Cell → String
  | .value (.list items) => "list(" ++ (Value.list items).quoted ++ ")"
  | .value v => v.quoted
  | .time (.instant t) => "np.datetime64(" ++ quotedTime 0 t ++ ")"
  | .time (.date t) => t.quoted

end Cell

namespace Cells

/-- The texts of cells of a type when they stand under each other. -/
def aligned (type : CellType) (cells : List Cell) : Cell → String :=
  let numbers (f : BinaryFormat) : Cell → String :=
    let column := Column.ofDoubles f (cells.filterMap Cell.float?)
    fun c => (c.float?.map column.word).getD ""
  match type with
  | .float64 => numbers .double
  | .float32 => numbers .single
  | .signed _ | .unsigned _ =>
      let width := Column.widest (cells.map fun c => c.toValue.quoted.length)
      fun c => Column.right width c.toValue.quoted
  | .bool => fun c => Column.right 5 c.toValue.quoted
  | .time =>
      let width := Column.widest (cells.map fun
        | .time (.instant t) => (Cell.quotedTime 0 t).length
        | _ => 0)
      fun
      | .time (.instant t) => Cell.quotedTime width t
      | c => c.quoted
  | .string _ | .bytes _ | .value => Cell.quoted

/-- The cells whose first index is `i`, in brackets. -/
def rowText (c : Cells) (i : Nat) : String :=
  let shape := c.shape.drop 1
  let isShort := Text.Brackets.longest < Block.count shape
  let cell (index : List Nat) : Cell := (c.block.get? (i :: index)).getD (.value .null)
  let word := aligned c.type ((Text.Brackets.kept isShort shape).map cell)
  Text.Brackets.text shape isShort fun index => word (cell index)

end Cells

end Meteo
