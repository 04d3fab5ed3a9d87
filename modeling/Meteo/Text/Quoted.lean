/-
# Meteo.Text.Quoted -- a text or a row of bytes between quotes

The quoted form shows where a text begins and ends and what stands in it.  It is
written between single quotes, or between double quotes when the text contains
single quotes and no double ones; the quote in use and the backslash are escaped,
and so is every character that does not print.  Bytes are written the same way
behind a `b`, the printing ones of ASCII as themselves.
-/
import Meteo.Text.Printable

namespace Meteo.Text

set_option autoImplicit false

/-- The hexadecimal digits of `n`, padded to so many places. -/
def hex (width n : Nat) : List Char :=
  let ds := Nat.toDigits 16 n
  List.replicate (width - ds.length) '0' ++ ds

/-- The quote that stands around a text: double only if single ones occur and double ones do not. -/
def quoteFor (hasSingle hasDouble : Bool) : Char :=
  if hasSingle && !hasDouble then '"' else '\''

/-- The escapes that the backslash, the quote in use and the three common controls share. -/
def commonEscape? (quote c : Char) : Option (List Char) :=
  if c = quote || c = '\\' then some ['\\', c]
  else if c = '\n' then some ['\\', 'n']
  else if c = '\r' then some ['\\', 'r']
  else if c = '\t' then some ['\\', 't']
  else none

/-- One character between quotes; `isPlain` says which ones stand for themselves. -/
def escapeChar (isPlain : Char → Bool) (quote c : Char) : List Char :=
  match commonEscape? quote c with
  | some cs => cs
  | none =>
      let n := c.toNat
      if isPlain c then [c]
      else if n < 0x100 then '\\' :: 'x' :: hex 2 n
      else if n < 0x10000 then '\\' :: 'u' :: hex 4 n
      else '\\' :: 'U' :: hex 8 n

/-- A text between quotes, the characters escaped that do not stand for themselves. -/
def quotedBy (isPlain : Char → Bool) (s : String) : String :=
  let cs := s.toList
  let q := quoteFor (cs.contains '\'') (cs.contains '"')
  String.ofList (q :: cs.flatMap (escapeChar isPlain q) ++ [q])

def quoted (s : String) : String := quotedBy isPrintable s

def quotedAscii (s : String) : String :=
  quotedBy (fun c => isPrintable c && c.toNat < 0x80) s

def escapeByte (quote : Char) (b : UInt8) : List Char :=
  let c := Char.ofNat b.toNat
  match commonEscape? quote c with
  | some cs => cs
  | none => if 0x20 ≤ b.toNat && b.toNat < 0x7f then [c] else '\\' :: 'x' :: hex 2 b.toNat

def quotedBytes (bs : List UInt8) : String :=
  let q := quoteFor (bs.contains 0x27) (bs.contains 0x22)
  String.ofList ('b' :: q :: bs.flatMap (escapeByte q) ++ [q])

end Meteo.Text
