/-!
# Places in a YAML text

A cursor holds the text that is left, the place in lines and columns, and whether only white space
has been read on the line so far. A line ends with a line feed, a carriage return, or both in that
order.
-/

namespace Folio.Yaml

/-- White space within a line. -/
def isGap (c : Char) : Bool := c = ' ' || c = '\t'

/-- A character that ends a line. -/
def isBreak (c : Char) : Bool := c = '\n' || c = '\r'

/-- White space, line ends included. -/
def isSpace (c : Char) : Bool := isGap c || isBreak c

/-- The brackets and the comma of flow collections. -/
def isFlowMark (c : Char) : Bool := c = ',' || c = '[' || c = ']' || c = '{' || c = '}'

/-- Letters, digits, the underscore and the hyphen. -/
def isNameChar (c : Char) : Bool := c.isAlphanum || c = '_' || c = '-'

/-- Whether a text is at its end or goes on with white space. -/
def spaceNext : List Char → Bool
  | [] => true
  | c :: _ => isSpace c

/-- Whether a text is at its end or at the end of a line. -/
def lineEnds : List Char → Bool
  | [] => true
  | c :: _ => isBreak c

/-- A place in a text. -/
structure Cursor where
  /-- What is left of the text. -/
  rest : List Char
  /-- Characters passed. -/
  offset : Nat
  /-- Lines passed. -/
  line : Nat
  /-- Characters passed on the line. -/
  column : Nat
  /-- Whether only white space has been passed on the line. -/
  fresh : Bool
  deriving Repr, DecidableEq, Inhabited

namespace Cursor

/-- The start of a text. -/
def start (text : List Char) : Cursor := ⟨text, 0, 0, 0, true⟩

/-- Pass white space within a line. -/
def pass (c : Cursor) (n : Nat) : Cursor :=
  { c with rest := c.rest.drop n, offset := c.offset + n, column := c.column + n }

/-- Pass characters that are no white space. -/
def passSolid (c : Cursor) (n : Nat) : Cursor := { c.pass n with fresh := false }

/-- Pass the end of a line. -/
def passBreak (c : Cursor) : Cursor :=
  let width := match c.rest with | '\r' :: '\n' :: _ => 2 | _ => 1
  ⟨c.rest.drop width, c.offset + width, c.line + 1, 0, true⟩

/-- Pass what is left of the line. -/
def passComment (c : Cursor) : Cursor :=
  let width := (c.rest.takeWhile fun c => !isBreak c).length
  if width = 0 then c else c.passSolid width

/-- Whether a document's start (`---`) or end (`...`) is marked here. -/
def atMarker (marker : Char) (c : Cursor) : Bool :=
  match c.rest with
  | x :: y :: z :: rest =>
    c.column = 0 && x = marker && y = marker && z = marker && spaceNext rest
  | _ => false

/-- Whether a document starts or ends here. -/
def atBoundary (c : Cursor) : Bool := c.atMarker '-' || c.atMarker '.'

/-- What was found between a token and the end of its line. -/
structure Margin where
  cursor : Cursor
  tab : Bool
  space : Bool

/-- Pass the white space and the comment behind a token. A comment needs white space in front. -/
def margin? (tabs : Bool) (c : Cursor) : Option Margin :=
  let gap := c.rest.takeWhile fun d => d = ' ' || (tabs && d = '\t')
  let after := c.pass gap.length
  let tab := gap.contains '\t'
  let space := gap.contains ' '
  match after.rest with
  | '#' :: _ => if gap.isEmpty then none else some ⟨after.passComment, tab, space⟩
  | _ => some ⟨after, tab, space⟩

end Cursor

end Folio.Yaml
