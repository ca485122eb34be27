/-!
# Lines of a source

A line ends with a line feed, or with a carriage return and a line feed; a last line without an
ending counts if it has a character.
-/

namespace Folio.Text

/-- Put a character in front of the first line. -/
def consLine (c : Char) : List (List Char) → List (List Char)
  | [] => [[c]]
  | line :: lines => (c :: line) :: lines

/-- The lines of a text, without their endings. -/
def lines : List Char → List (List Char)
  | [] => []
  | '\n' :: rest => [] :: lines rest
  | '\r' :: '\n' :: rest => [] :: lines rest
  | c :: rest => consLine c (lines rest)

/-- Lines joined by line feeds, with no line feeds in front. -/
def joinLines (lines : List (List Char)) : List Char :=
  (lines.flatMap fun line => '\n' :: line).dropWhile (· = '\n')

end Folio.Text
