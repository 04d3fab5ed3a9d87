/-
# Meteo.Text.Brackets -- words in nested brackets, wrapped into lines

Words that belong to combinations of indices are written in brackets, one pair for
each index, blanks between the words of an innermost pair.  A line is broken before a
word that would not fit into the width, if that helps; the next line is indented by
the brackets that are open.  Outer brackets have each of their parts on lines of its
own.  Of many words only those with the first and the last three values of each index
are written, and dots stand for the others.
-/
import Meteo.Text.Blank

namespace Meteo.Text.Brackets

set_option autoImplicit false

def lineWidth : Nat := 75

/-- With more words than these, most are left out. -/
def longest : Nat := 1000

/-- How many values of an index are kept at each end. -/
def edge : Nat := 3

/-- The values of an index that are written, none for those left out. -/
def shown (isShort : Bool) (n : Nat) : List (Option Nat) :=
  if isShort && 2 * edge < n then
    (List.range edge).map some ++ none :: (List.range edge).map fun i => some (n - edge + i)
  else (List.range n).map some

/-- The combinations of indices that are written. -/
def kept (isShort : Bool) : List Nat → List (List Nat)
  | [] => [[]]
  | n :: ns => (shown isShort n).reduceOption.flatMap fun i => (kept isShort ns).map (i :: ·)

def ellipsis : String := "..."

/-- Lines that are complete, and the one that grows. -/
structure Lines where
  above : List Char
  line : List Char

def trimEnd (cs : List Char) : List Char := (cs.reverse.dropWhile isBlank).reverse

/-- Puts a word at the end of the line, or on a new one if it does not fit and the line holds more
than the indentation. -/
def Lines.add (width : Nat) (indent : List Char) (ls : Lines) (word : String) : Lines :=
  if width < ls.line.length + word.length && indent.length < ls.line.length then
    ⟨ls.above ++ trimEnd ls.line ++ ['\n'], indent ++ word.toList⟩
  else ⟨ls.above, ls.line ++ word.toList⟩

/-- Words with blanks between them, wrapped into lines of a width; the first is indented too. -/
def wrapped (width : Nat) (indent : List Char) : List String → List Char
  | [] => indent
  | word :: words =>
      let first := Lines.add width indent ⟨[], indent⟩ word
      let all := words.foldl
        (fun ls w => Lines.add width indent { ls with line := ls.line ++ [' '] } w) first
      all.above ++ all.line

/-- The words in brackets, one pair for each index.  The brackets stand behind an indentation, and
the lines have this width. -/
def written (isShort : Bool) (width : Nat) (indent : List Char) :
    List Nat → (List Nat → String) → List Char
  | [], word => (word []).toList
  | [n], word =>
      let words := (shown isShort n).map fun i => (i.map fun i => word [i]).getD ellipsis
      '[' :: (wrapped (width - 1) indent words).drop indent.length ++ [']']
  | n :: ns, word =>
      let part (i : Option Nat) : List Char :=
        indent ++ match i with
          | some i => written isShort (width - 1) (indent ++ [' ']) ns fun is => word (i :: is)
          | none => ellipsis.toList
      let breaks := List.replicate ns.length '\n'
      '[' :: ((breaks.intercalate ((shown isShort n).map part)).drop indent.length) ++ [']']

/-- The words of all combinations of indices below the sizes; without any words, a pair of
brackets. -/
def text (shape : List Nat) (isShort : Bool) (word : List Nat → String) : String :=
  if shape.contains 0 then "[]" else String.ofList (written isShort lineWidth [' '] shape word)

end Meteo.Text.Brackets
