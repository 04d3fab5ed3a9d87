/-
# Meteo.Response.Csv -- records of fields with commas between them

A field stands between double quotes when it contains a comma, a double quote or
the end of a line, and there a double quote is written twice; any other field
stands as it is.  A record ends with its line.  Some writers put quotes around a
carriage return as well; here it stands as it is, and a reader finds the same fields
either way.

`records` reads such a text: a quote that begins a field opens it, a quote inside a
field that has none around it is a character like any other, and a record ends at
the end of a line outside quotes.
-/
import Meteo.Value

namespace Meteo.Response.Csv

set_option autoImplicit false

def isSpecial (c : Char) : Bool := c = ',' || c = '"' || c = '\n'

def doubleQuotes (cs : List Char) : List Char :=
  cs.flatMap fun c => if c = '"' then ['"', '"'] else [c]

def fieldChars (cs : List Char) : List Char :=
  if cs.any isSpecial then '"' :: doubleQuotes cs ++ ['"'] else cs

def field (s : String) : String := String.ofList (fieldChars s.toList)

def joined (fields : List String) : String := ",".intercalate fields ++ "\n"

def record (fields : List String) : String := joined (fields.map field)

/-- The field of a value; nothing for one that is missing. -/
def valueText : Value → String
  | .null => ""
  | v => v.shown

/-! ## Reading -/

inductive Place where
  /-- Before its first character. -/
  | atStart
  /-- Behind the first character of a field without quotes. -/
  | plain
  /-- Behind the opening quote. -/
  | inQuotes
  /-- Behind a quote inside the quotes, which closes them or is the first of two. -/
  | afterQuote
  deriving Repr, DecidableEq

/-- Reads on: `field` holds the characters of the field so far and `fields` the fields of the
record so far, both in reverse. -/
def readFrom (place : Place) (field : List Char) (fields : List String) :
    List Char → List (List String)
  | [] =>
      if place = .atStart && fields.isEmpty then []
      else [(String.ofList field.reverse :: fields).reverse]
  | c :: cs =>
      let comma := readFrom .atStart [] (String.ofList field.reverse :: fields) cs
      let newline := (String.ofList field.reverse :: fields).reverse :: readFrom .atStart [] [] cs
      match place with
      | .atStart =>
          if c = '"' then readFrom .inQuotes field fields cs
          else if c = ',' then comma
          else if c = '\n' then newline
          else readFrom .plain (c :: field) fields cs
      | .plain =>
          if c = ',' then comma
          else if c = '\n' then newline
          else readFrom .plain (c :: field) fields cs
      | .inQuotes =>
          if c = '"' then readFrom .afterQuote field fields cs
          else readFrom .inQuotes (c :: field) fields cs
      | .afterQuote =>
          if c = '"' then readFrom .inQuotes ('"' :: field) fields cs
          else if c = ',' then comma
          else if c = '\n' then newline
          else readFrom .plain (c :: field) fields cs

def records (s : String) : List (List String) := readFrom .atStart [] [] s.toList

end Meteo.Response.Csv
