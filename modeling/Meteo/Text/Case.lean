/-
# Meteo.Text.Case -- small and capital letters

Names that differ only in case are the same coverage, the same unit and the same
feature type.  They are compared by their small letters, `lower`, which follows
the full mapping of Unicode: a capital I with dot becomes two characters, and a
capital sigma at the end of a word becomes the final sigma.

`upper` is needed where a word is compared with capitals of ASCII; it maps the
small letters of ASCII and the few other characters whose capitals are letters of
ASCII, and leaves the rest.
-/
import Meteo.Text.Printable
import Meteo.Text.CaseTable

namespace Meteo.Text

set_option autoImplicit false

/-- The small letter of a character that has a single one, or the character itself. -/
def lowerChar (c : Char) : Char :=
  let n := c.toNat
  if n < 0x80 then c.toLower
  else
    match lowerRuns.find? fun r => r.1 ≤ n && n ≤ r.2.1 && (n - r.1) % r.2.2.1 = 0 with
    | some r => Char.ofNat (r.2.2.2 + (n - r.1))
    | none => c

/-- Whether a letter has case and is not one that a word skips. -/
def isCased (c : Char) : Bool := inRanges casedRanges c.toNat

def isIgnorable (c : Char) : Bool := inRanges ignorableRanges c.toNat

/-- Whether the first character that a word does not skip is a letter with case. -/
def meetsCased (cs : List Char) : Bool :=
  match cs.dropWhile isIgnorable with
  | [] => false
  | c :: _ => isCased c

/-- Lowers a list whose reversed predecessors are `before`: a capital sigma is final when a letter
with case precedes it and none follows. -/
def lowerFrom (before : List Char) : List Char → List Char
  | [] => []
  | c :: cs =>
      let small :=
        if c = 'Σ' then
          if meetsCased before && !meetsCased cs then ['ς'] else ['σ']
        else if c = 'İ' then ['i', '\u0307']
        else [lowerChar c]
      small ++ lowerFrom (c :: before) cs

def lower (s : String) : String := String.ofList (lowerFrom [] s.toList)

/-- The capitals of a character, as far as they are letters of ASCII. -/
def upperChar (c : Char) : List Char :=
  match c with
  | 'ß' => ['S', 'S']
  | 'ı' => ['I']
  | 'ſ' => ['S']
  | 'ﬀ' => ['F', 'F']
  | 'ﬁ' => ['F', 'I']
  | 'ﬂ' => ['F', 'L']
  | 'ﬃ' => ['F', 'F', 'I']
  | 'ﬄ' => ['F', 'F', 'L']
  | 'ﬅ' => ['S', 'T']
  | 'ﬆ' => ['S', 'T']
  | c => [c.toUpper]

def upper (s : String) : String := String.ofList (s.toList.flatMap upperChar)

end Meteo.Text
