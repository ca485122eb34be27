import Folio.Text.Escape

/-!
# HTML

A page is a tree of elements, texts and trusted markup. Texts and attribute values are escaped when
the tree is written, and only then; markup is written as it is.
-/

namespace Folio.Site

/-- A part of a page. -/
inductive Html where
  /-- An element with attributes and parts. -/
  | element (name : String) (attributes : List (String × String)) (children : List Html)
  /-- An element that has no parts and no closing tag. -/
  | void (name : String) (attributes : List (String × String))
  | text (content : String)
  | markup (content : String)
  deriving Repr, Inhabited

namespace Html

/-- Attributes of a tag. -/
def writeAttributes (attributes : List (String × String)) : List Char :=
  attributes.flatMap fun (key, value) =>
    ' ' :: key.toList ++ ['=', '"'] ++ Text.escapeWith Text.attributeEscapes value.toList ++ ['"']

/-- A text between tags. An empty one is a space, so that there is something to find there. -/
def writeText (content : String) : List Char :=
  if content.isEmpty then [' '] else Text.escapeWith Text.textEscapes content.toList

mutual

/-- The text of a part. -/
def write : Html → List Char
  | .element name attributes children =>
    '<' :: name.toList ++ writeAttributes attributes ++ '>' :: writeAll children ++
      '<' :: '/' :: name.toList ++ ['>']
  | .void name attributes => '<' :: name.toList ++ writeAttributes attributes ++ ['>']
  | .text content => writeText content
  | .markup content => content.toList

/-- The text of parts one after the other. -/
def writeAll : List Html → List Char
  | [] => []
  | part :: rest => part.write ++ writeAll rest

end

/-- A `div` of a class. -/
def div (style : String) (children : List Html) : Html := .element "div" [("class", style)] children

/-- A `span` of a class that holds a text. -/
def span (style content : String) : Html := .element "span" [("class", style)] [.text content]

/-- A `p` of a class that holds a text. -/
def paragraph (style content : String) : Html := .element "p" [("class", style)] [.text content]

/-- An icon by its class. -/
def icon (glyph : String) : Html := .element "i" [("class", glyph)] []

/-- A link that opens in a page of its own: the attributes behind its address. -/
def outside : List (String × String) := [("target", "_blank"), ("rel", "noopener noreferrer")]

end Html

end Folio.Site
