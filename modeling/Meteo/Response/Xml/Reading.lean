/-
# Meteo.Response.Xml.Reading -- reading a document

A document of XML 1.0 is read as a tree of elements and texts.  All its characters must
be allowed, the ends of its lines are those of one system before anything else is looked
at, and references stand for characters.  An element ends with its own name, no attribute
occurs twice in it, and one element contains all others; outside of it there is only white
space.  White space in the value of an attribute is read as spaces unless it was written
as references.

The reader takes one character after the other (`Reader.step`).  It knows the declaration
that documents begin with here, the references to characters and those that need no
declaration, and no comments, sections of characters, instructions or document types.
-/
import Meteo.Response.Xml
import Meteo.Table

namespace Meteo.Response.Xml

set_option autoImplicit false

/-! ## Characters -/

/-- Whether a document may contain a character. -/
def isChar (c : Char) : Bool :=
  c = '\t' || c = '\n' || c = '\r' || ' ' ≤ c && c ≠ '\ufffe' && c ≠ '\uffff'

/-- Whether a document may contain all characters of a text. -/
def allowed (s : String) : Bool := s.toList.all isChar

def isSpace (c : Char) : Bool := c = ' ' || c = '\t' || c = '\r' || c = '\n'

/-- The first and the last of each range of the characters that begin names. -/
def nameStarts : List (Nat × Nat) := [
  (0x3a, 0x3a), (0x41, 0x5a), (0x5f, 0x5f), (0x61, 0x7a), (0xc0, 0xd6), (0xd8, 0xf6),
  (0xf8, 0x2ff), (0x370, 0x37d), (0x37f, 0x1fff), (0x200c, 0x200d), (0x2070, 0x218f),
  (0x2c00, 0x2fef), (0x3001, 0xd7ff), (0xf900, 0xfdcf), (0xfdf0, 0xfffd), (0x10000, 0xeffff)]

/-- The ranges of the other characters in names. -/
def nameParts : List (Nat × Nat) := [
  (0x2d, 0x2e), (0x30, 0x39), (0xb7, 0xb7), (0x300, 0x36f), (0x203f, 0x2040)]

def among (ranges : List (Nat × Nat)) (c : Char) : Bool :=
  ranges.any fun (first, last) => first ≤ c.toNat && c.toNat ≤ last

def isNameChar (c : Char) : Bool := among nameStarts c || among nameParts c

def isName : List Char → Bool
  | [] => false
  | c :: cs => among nameStarts c && cs.all isNameChar

/-- The ends of lines as line feeds. -/
def lineEnds : List Char → List Char
  | [] => []
  | '\r' :: cs =>
      match cs with
      | '\n' :: cs => '\n' :: lineEnds cs
      | cs => '\n' :: lineEnds cs
  | c :: cs => c :: lineEnds cs

/-! ## References -/

def digit? (base : Nat) (c : Char) : Option Nat :=
  let n :=
    if '0' ≤ c && c ≤ '9' then c.toNat - '0'.toNat
    else if 'a' ≤ c && c ≤ 'f' then c.toNat - 'a'.toNat + 10
    else if 'A' ≤ c && c ≤ 'F' then c.toNat - 'A'.toNat + 10
    else base
  if n < base then some n else none

/-- The allowed character whose number is written to a base. -/
def numbered? (base : Nat) (digits : List Char) : Option Char := do
  let n ← digits.foldlM (fun n c => (digit? base c).map (base * n + ·)) 0
  if !digits.isEmpty && n.isValidChar && isChar (Char.ofNat n) then some (Char.ofNat n) else none

/-- The character that a reference stands for, given what it has between the ampersand and the
semicolon. -/
def reference? : List Char → Option Char
  | '#' :: 'x' :: digits => numbered? 16 digits
  | '#' :: digits => numbered? 10 digits
  | name =>
      [("amp", '&'), ("lt", '<'), ("gt", '>'), ("quot", '"'), ("apos", '\'')].lookup
        (String.ofList name)

/-- What characters and references stand for; the characters that are not written as references are
read as `plain` says.  `name` holds what has been read of a reference. -/
def decodeFrom (plain : Char → Char) (name : Option (List Char)) :
    List Char → Option (List Char)
  | [] => if name.isNone then some [] else none
  | c :: cs =>
      match name with
      | none =>
          if c = '&' then decodeFrom plain (some []) cs
          else (decodeFrom plain none cs).map (plain c :: ·)
      | some name =>
          if c = ';' then
            match reference? name with
            | some d => (decodeFrom plain none cs).map (d :: ·)
            | none => none
          else decodeFrom plain (some (name ++ [c])) cs

/-- Whether the mark that ends a section of characters occurs. -/
def endsSection : List Char → Bool
  | [] => false
  | c :: cs => [']', ']', '>'].isPrefixOf (c :: cs) || endsSection cs

def text? (raw : List Char) : Option String :=
  if endsSection raw then none else (decodeFrom id none raw).map String.ofList

def spaced (c : Char) : Char := if isSpace c then ' ' else c

/-- The value of an attribute that these characters write. -/
def value? (raw : List Char) : Option String :=
  if raw.contains '<' then none else (decodeFrom spaced none raw).map String.ofList

/-! ## Trees -/

/-- What a document contains: texts, and elements with attributes and what is inside them. -/
inductive Node where
  | text (s : String)
  | element (tag : String) (attributes : Table String) (nodes : List Node)

namespace Node

def tag? : Node → Option String
  | text _ => none
  | element tag _ _ => some tag

def attribute? (name : String) : Node → Option String
  | text _ => none
  | element _ attributes _ => attributes.get? name

def elements : Node → List Node
  | text _ => []
  | element _ _ nodes => nodes.filter fun n => n.tag?.isSome

/-- The texts inside an element, one after the other. -/
def content : Node → String
  | text s => s
  | element _ _ nodes => String.join (nodes.map fun
      | text s => s
      | element _ _ _ => "")

end Node

/-! ## The reader -/

/-- The name of an element and its attributes so far. -/
structure Tag where
  name : String
  attributes : Table String := .empty

inductive Place where
  /-- Behind these characters outside of tags. -/
  | content (raw : List Char)
  /-- Behind the angle bracket that begins a tag. -/
  | bracket
  /-- In the name of an element. -/
  | startName (name : List Char)
  /-- Behind the name or the value of an attribute. -/
  | part (tag : Tag)
  /-- Behind white space in a tag. -/
  | space (tag : Tag)
  /-- In the name of an attribute. -/
  | attributeName (tag : Tag) (name : List Char)
  /-- Behind white space behind the name of an attribute. -/
  | equals (tag : Tag) (name : List Char)
  /-- Behind the equals sign of an attribute. -/
  | quote (tag : Tag) (name : List Char)
  /-- In the value of an attribute. -/
  | value (tag : Tag) (name : List Char) (quote : Char) (raw : List Char)
  /-- Behind the slash of an element with nothing inside. -/
  | slash (tag : Tag)
  /-- In the name at the end of an element. -/
  | endName (name : List Char)
  /-- Behind the name at the end of an element. -/
  | endSpace (name : List Char)

/-- A reader with the elements it stands in, the innermost first, and what has been read of each;
and the element that contains all others once it has been read. -/
structure Reader where
  place : Place := .content []
  stack : List (Tag × List Node) := []
  root : Option Node := none

namespace Tag

def add (tag : Tag) (name : List Char) (value : String) : Option Tag :=
  if isName name && !tag.attributes.contains (String.ofList name) then
    some { tag with attributes := tag.attributes.insert (String.ofList name) value }
  else none

end Tag

namespace Reader

def endsName (c : Char) : Bool := c = '>' || c = '/' || isSpace c

/-- Takes up what is inside the innermost element, or contains all others. -/
def add (r : Reader) (n : Node) : Option Reader :=
  match r.stack with
  | (tag, nodes) :: stack =>
      some { r with place := .content [], stack := (tag, nodes ++ [n]) :: stack }
  | [] => if r.root.isNone then some { r with place := .content [], root := some n } else none

/-- Takes up the characters in front of a tag; outside of all elements they are white space. -/
def flush (r : Reader) (raw : List Char) : Option Reader :=
  if r.stack.isEmpty then if raw.all isSpace then some r else none
  else if raw.isEmpty then some r
  else (text? raw).bind fun s => r.add (.text s)

/-- Goes on behind the name of an element or an attribute of it. -/
def proceed (r : Reader) (tag : Tag) (c : Char) : Option Reader :=
  if c = '>' then some { r with place := .content [], stack := (tag, []) :: r.stack }
  else if c = '/' then some { r with place := .slash tag }
  else if isSpace c then some { r with place := .space tag }
  else none

/-- Ends the innermost element, which must have this name. -/
def close (r : Reader) (name : List Char) : Option Reader :=
  match r.stack with
  | (tag, nodes) :: stack =>
      if tag.name.toList = name then
        { r with stack }.add (.element tag.name tag.attributes nodes)
      else none
  | [] => none

def step (r : Reader) (c : Char) : Option Reader :=
  match r.place with
  | .content raw =>
      if c = '<' then (r.flush raw).map fun r => { r with place := .bracket }
      else some { r with place := .content (raw ++ [c]) }
  | .bracket => some { r with place := if c = '/' then .endName [] else .startName [c] }
  | .startName name =>
      if !endsName c then some { r with place := .startName (name ++ [c]) }
      else if isName name then r.proceed { name := String.ofList name } c
      else none
  | .part tag => r.proceed tag c
  | .space tag =>
      if endsName c then r.proceed tag c else some { r with place := .attributeName tag [c] }
  | .attributeName tag name =>
      if c = '=' then some { r with place := .quote tag name }
      else if isSpace c then some { r with place := .equals tag name }
      else some { r with place := .attributeName tag (name ++ [c]) }
  | .equals tag name =>
      if c = '=' then some { r with place := .quote tag name }
      else if isSpace c then some r
      else none
  | .quote tag name =>
      if c = '"' || c = '\'' then some { r with place := .value tag name c [] }
      else if isSpace c then some r
      else none
  | .value tag name quote raw =>
      if c = quote then do
        let tag ← tag.add name (← value? raw)
        return { r with place := .part tag }
      else some { r with place := .value tag name quote (raw ++ [c]) }
  | .slash tag => if c = '>' then r.add (.element tag.name tag.attributes []) else none
  | .endName name =>
      if c = '>' then r.close name
      else if isSpace c then some { r with place := .endSpace name }
      else some { r with place := .endName (name ++ [c]) }
  | .endSpace name =>
      if c = '>' then r.close name else if isSpace c then some r else none

def run (r : Reader) (cs : List Char) : Option Reader := cs.foldlM step r

/-- The element that contains all others, at the end of a document. -/
def finish (r : Reader) : Option Node :=
  match r.place, r.stack with
  | .content raw, [] => if raw.all isSpace then r.root else none
  | _, _ => none

end Reader

def declaration : String := "<?xml version=\"1.0\" encoding=\"UTF-8\"?>"

/-- What the text of a document contains; none if it is not well-formed. -/
def read (s : String) : Option Node :=
  let cs := lineEnds s.toList
  if allowed s && declaration.toList.isPrefixOf cs then
    (Reader.run {} (cs.drop declaration.length)).bind Reader.finish
  else none

end Meteo.Response.Xml
