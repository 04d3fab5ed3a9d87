/-
# Meteo.Response.Xml -- elements with attributes, and their indented text

An element has a tag, attributes in order, and either a text or other elements
inside it.  It is written on lines of its own, two spaces further in than the
element around it; without text and elements it is closed at once.

In a text the ampersand and the angle brackets are escaped; in an attribute also
the double quote and the characters that would be read as blanks.
-/

namespace Meteo.Response

set_option autoImplicit false

/-- An element; the text only counts when there are no elements inside. -/
inductive Xml where
  | element (tag : String) (attributes : List (String × String)) (text : String)
      (children : List Xml)

namespace Xml

def escapeChar (c : Char) : List Char :=
  match c with
  | '&' => ['&', 'a', 'm', 'p', ';']
  | '<' => ['&', 'l', 't', ';']
  | '>' => ['&', 'g', 't', ';']
  | c => [c]

def escapeAttributeChar (c : Char) : List Char :=
  match c with
  | '"' => ['&', 'q', 'u', 'o', 't', ';']
  | '\r' => ['&', '#', '1', '3', ';']
  | '\n' => ['&', '#', '1', '0', ';']
  | '\t' => ['&', '#', '0', '9', ';']
  | c => escapeChar c

def escapeText (s : String) : String := String.ofList (s.toList.flatMap escapeChar)

def escapeAttribute (s : String) : String := String.ofList (s.toList.flatMap escapeAttributeChar)

def attributesText (attributes : List (String × String)) : String :=
  String.join (attributes.map fun (name, value) =>
    " " ++ name ++ "=\"" ++ escapeAttribute value ++ "\"")

/-- The end of a line and the blanks in front of an element so far inside others. -/
def newline (depth : Nat) : String := "\n" ++ String.ofList (List.replicate (2 * depth) ' ')

mutual

def render (depth : Nat) : Xml → String
  | element tag attributes text children =>
      let start := "<" ++ tag ++ attributesText attributes
      let stop := "</" ++ tag ++ ">"
      match children with
      | [] => if text.isEmpty then start ++ " />" else start ++ ">" ++ escapeText text ++ stop
      | child :: rest =>
          start ++ ">" ++ renderAll (depth + 1) (child :: rest) ++ newline depth ++ stop

def renderAll (depth : Nat) : List Xml → String
  | [] => ""
  | child :: rest => newline depth ++ render depth child ++ renderAll depth rest

end

def document (root : Xml) : String :=
  "<?xml version=\"1.0\" encoding=\"UTF-8\"?>\n" ++ render 0 root ++ "\n"

end Xml

end Meteo.Response
