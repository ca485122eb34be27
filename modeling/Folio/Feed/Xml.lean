import Folio.Text.Escape

/-!
# XML

A document is an element with attributes; it holds elements, or one text. A text is written with
references for the characters that mark up, or as a marked section, which is cut where its end mark
occurs in the text. Elements that hold elements may be written on lines of their own.
-/

namespace Folio.Feed

/-- An element. -/
inductive Xml where
  | parent (name : String) (attributes : List (String × String)) (children : List Xml)
  | leaf (name : String) (attributes : List (String × String))
  | text (name : String) (content : String)
  | cdata (name : String) (content : String)
  deriving Repr, Inhabited

namespace Xml

/-- An opening tag without its closing bracket. -/
def openTag (name : String) (attributes : List (String × String)) : List Char :=
  '<' :: name.toList ++ attributes.flatMap fun (key, value) =>
    ' ' :: key.toList ++ ['=', '"'] ++ Text.escapeWith Text.xmlEscapes value.toList ++ ['"']

/-- A closing tag. -/
def closeTag (name : String) : List Char := '<' :: '/' :: name.toList ++ ['>']

/-- The text of a marked section: where the end mark occurs, the section ends within it and a new
one begins. -/
def sectionText : List Char → List Char
  | ']' :: ']' :: '>' :: rest => "]]]]><![CDATA[>".toList ++ sectionText rest
  | c :: rest => c :: sectionText rest
  | [] => []

/-- What stands before an element at some depth: with an indent, a line break and spaces. -/
def lineStart (indent : Option Nat) (depth : Nat) : List Char :=
  match indent with
  | some width => '\n' :: List.replicate (width * depth) ' '
  | none => []

mutual

/-- An element at some depth. -/
def write (indent : Option Nat) (depth : Nat) : Xml → List Char
  | .parent name attributes children =>
    openTag name attributes ++ ['>'] ++ writeAll indent (depth + 1) children ++
      lineStart indent depth ++ closeTag name
  | .leaf name attributes => openTag name attributes ++ ['/', '>']
  | .text name content =>
    openTag name [] ++ ['>'] ++ Text.escapeWith Text.xmlEscapes content.toList ++ closeTag name
  | .cdata name content =>
    openTag name [] ++ ['>'] ++ "<![CDATA[".toList ++ sectionText content.toList ++
      "]]>".toList ++ closeTag name

/-- Elements at some depth, each behind what stands before it. -/
def writeAll (indent : Option Nat) (depth : Nat) : List Xml → List Char
  | [] => []
  | element :: rest =>
    lineStart indent depth ++ element.write indent depth ++ writeAll indent depth rest

end

/-- A document: a declaration and an element. -/
def document (indent : Option Nat) (root : Xml) : List Char :=
  "<?xml version=\"1.0\" encoding=\"utf-8\"?>".toList ++ lineStart indent 0 ++ root.write indent 0

end Xml

end Folio.Feed
