import Folio.Proofs.Text.Escape
import Folio.Proofs.Text.Machine
import Folio.Text.Blank

/-!
# Reading XML

XML is read in two stages. A machine cuts a text into tags, the texts between them and marked
sections. Then each element is built from what stands between its tags: references in texts and
attribute values are undone, sections are taken as they are, and both are joined. Blank text beside
elements is layout and is dropped.

The reader takes no more than what a writer without comments or namespaces of its own needs. It is
strict where a text could damage the markup around it: tags must match, an angle bracket in an
attribute value is an error, and there is one outermost element. Line breaks stay as they are, and
every character is one that a document may have.
-/

namespace Folio.Feed.Xml

open Folio.Text (Machine unescape)

/-- A tag, a text between tags, or a marked section; all as they are written. -/
inductive Token where
  | opened (name : List Char) (attributes : List (List Char × List Char))
  | closed (name : List Char)
  /-- A tag that opens an element and closes it. -/
  | empty (name : List Char) (attributes : List (List Char × List Char))
  | text (content : List Char)
  | verbatim (content : List Char)
  deriving Repr, DecidableEq

/-- A tag as far as it was read. -/
structure Tag where
  name : List Char
  attributes : List (List Char × List Char) := []
  deriving Repr, DecidableEq

/-- A tag with one more attribute. -/
def Tag.add (tag : Tag) (key value : List Char) : Tag :=
  { tag with attributes := tag.attributes ++ [(key, value)] }

/-- What a reader is in the middle of. -/
inductive Reading where
  | content (text : List Char)
  /-- Behind an angle bracket. -/
  | bracket
  | name (name : List Char)
  | closing (name : List Char)
  /-- In what begins a section, with the characters that are left of it. -/
  | marker (left : List Char)
  | verbatim (content : List Char)
  | instruction (read : List Char)
  | inside (tag : Tag)
  | key (tag : Tag) (key : List Char)
  /-- Behind the sign of equality of an attribute. -/
  | assigned (tag : Tag) (key : List Char)
  | value (tag : Tag) (key : List Char) (quote : Char) (value : List Char)
  /-- Behind the closing quote of an attribute. -/
  | valued (tag : Tag)
  /-- Behind a slash at the end of a tag. -/
  | slashed (tag : Tag)
  | malformed
  deriving Repr, DecidableEq

/-- The characters of names and keys: letters, digits and some signs. -/
def isNameChar (c : Char) : Bool := c.isAlphanum || c = '-' || c = ':' || c = '_' || c = '.'

/-- The token of a text between tags, if there is any. -/
def textToken (text : List Char) : List Token := if text.isEmpty then [] else [.text text]

/-- What follows the name of a tag or an attribute of it. -/
def Tag.next (tag : Tag) (c : Char) : Reading × List Token :=
  if c = '>' then (.content [], [.opened tag.name tag.attributes])
  else if c = '/' then (.slashed tag, [])
  else if c = ' ' then (.inside tag, [])
  else (.malformed, [])

/-- What begins a section behind an angle bracket and an exclamation mark. -/
def startMark : List Char := ['[', 'C', 'D', 'A', 'T', 'A', '[']

/-- Read one character. -/
def step : Machine Reading Token
  | .content read, c => if c = '<' then (.bracket, textToken read) else (.content (read ++ [c]), [])
  | .bracket, c =>
    if isNameChar c then (.name [c], [])
    else if c = '/' then (.closing [], [])
    else if c = '!' then (.marker startMark, [])
    else if c = '?' then (.instruction [], [])
    else (.malformed, [])
  | .name read, c => if isNameChar c then (.name (read ++ [c]), []) else Tag.next { name := read } c
  | .closing read, c =>
    if isNameChar c then (.closing (read ++ [c]), [])
    else if c = '>' && !read.isEmpty then (.content [], [.closed read])
    else (.malformed, [])
  | .marker left, c =>
    if left = [c] then (.verbatim [], [])
    else if left.head? = some c then (.marker left.tail, [])
    else (.malformed, [])
  | .verbatim read, c =>
    if c = '>' then
      match Text.dropEnd? [']', ']'] read with
      | some content => (.content [], [.verbatim content])
      | none => (.verbatim (read ++ [c]), [])
    else (.verbatim (read ++ [c]), [])
  | .instruction read, c =>
    if c = '>' && read.getLast? = some '?' then (.content [], [])
    else (.instruction (read ++ [c]), [])
  | .inside tag, c => if isNameChar c then (.key tag [c], []) else tag.next c
  | .key tag read, c =>
    if isNameChar c then (.key tag (read ++ [c]), [])
    else if c = '=' then (.assigned tag read, [])
    else (.malformed, [])
  | .assigned tag key, c =>
    if c = '"' || c = '\'' then (.value tag key c [], []) else (.malformed, [])
  | .value tag key quote read, c =>
    if c = quote then (.valued (tag.add key read), [])
    else if c = '<' then (.malformed, [])
    else (.value tag key quote (read ++ [c]), [])
  | .valued tag, c => tag.next c
  | .slashed tag, c =>
    if c = '>' then (.content [], [.empty tag.name tag.attributes]) else (.malformed, [])
  | .malformed, _ => (.malformed, [])

/-- The tags, texts and sections of a text, if it ends outside of tags and sections. -/
def tokens? (s : List Char) : Option (List Token) :=
  match Machine.run step (.content []) s with
  | (.content last, made) => some (made ++ textToken last)
  | _ => none

/-- A tag without its attributes. -/
inductive Mark where
  | opened (name : String)
  | closed (name : String)
  | empty (name : String)
  deriving Repr, DecidableEq

/-- The tag that a token is. -/
def Token.mark? : Token → Option Mark
  | .opened name _ => some (.opened (String.ofList name))
  | .closed name => some (.closed (String.ofList name))
  | .empty name _ => some (.empty (String.ofList name))
  | .text _ | .verbatim _ => none

/-- The tags of a text in their order. -/
def marks? (s : List Char) : Option (List Mark) := (tokens? s).map (List.filterMap Token.mark?)

/-- An element with what its texts and sections say, and the elements in it. -/
structure Element where
  name : String
  attributes : List (String × String) := []
  content : String := ""
  children : List Element := []
  deriving Repr, Inhabited

namespace Element

/-- An element of a tag, without content so far. -/
def ofTag (name : List Char) (attributes : List (List Char × List Char)) : Element :=
  { name := String.ofList name
    attributes := attributes.map fun (key, value) =>
      (String.ofList key, String.ofList (unescape value)) }

/-- An element with more content. -/
def say (element : Element) (content : List Char) : Element :=
  { element with content := element.content ++ String.ofList content }

/-- An element with one more element in it. -/
def hold (element child : Element) : Element :=
  { element with children := element.children ++ [child] }

/-- An element without the blank content beside the elements in it. -/
def tidy (element : Element) : Element :=
  if !element.children.isEmpty && element.content.toList.all Text.isBlank then
    { element with content := "" }
  else element

/-- Take a token. The elements that are open are listed from the innermost one outwards. -/
def take : List Element → Token → Option (List Element)
  | [], _ => none
  | element :: rest, .text content => some (element.say (unescape content) :: rest)
  | element :: rest, .verbatim content => some (element.say content :: rest)
  | element :: rest, .opened name attributes => some (ofTag name attributes :: element :: rest)
  | element :: rest, .empty name attributes => some (element.hold (ofTag name attributes) :: rest)
  | element :: outer :: rest, .closed name =>
    if element.name = String.ofList name then some (outer.hold element.tidy :: rest) else none
  | [_], .closed _ => none

/-- The element that tokens make, if they make one and nothing else. They are taken by an element
around it that has no name. -/
def ofTokens? (made : List Token) : Option Element :=
  match made.foldlM take [{ name := "" }] with
  | some [{ content, children := [root], .. }] =>
    if content.toList.all Text.isBlank then some root else none
  | _ => none

/-- The outermost element of a text. -/
def read? (s : List Char) : Option Element := (tokens? s).bind ofTokens?

end Element

end Folio.Feed.Xml
