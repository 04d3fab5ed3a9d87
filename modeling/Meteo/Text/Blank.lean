/-
# Meteo.Text.Blank -- the white space around a word

Attribute texts, station names and criteria are read without the white space at
their ends.  White space is what Unicode calls so, together with the four
information separators of ASCII.
-/

namespace Meteo.Text

set_option autoImplicit false

def isBlank (c : Char) : Bool :=
  let n := c.toNat
  0x9 ≤ n && n ≤ 0xd || 0x1c ≤ n && n ≤ 0x20 || n = 0x85 || n = 0xa0 || n = 0x1680 ||
    0x2000 ≤ n && n ≤ 0x200a || n = 0x2028 || n = 0x2029 || n = 0x202f || n = 0x205f || n = 0x3000

/-- The longest part of a list that neither begins nor ends with a member of the class. -/
def trimBy (blank : Char → Bool) (cs : List Char) : List Char :=
  (((cs.dropWhile blank).reverse).dropWhile blank).reverse

def strip (s : String) : String := String.ofList (trimBy isBlank s.toList)

end Meteo.Text
