/-!
# Lines and indentation

A document is a list of lines that keep their endings, so that joining them gives back the
document. A cursor walks into a line column by column: a tab is as wide as the way to the next
multiple of four, and a tab that is only partly used leaves columns over.
-/

namespace Folio.Markdown

/-- A line: its text, and the characters that end it (none at the end of the document). -/
structure Line where
  text : List Char
  ending : List Char
  deriving Repr, DecidableEq, Inhabited

namespace Line

/-- The characters of the line, its ending included. -/
def chars (line : Line) : List Char := line.text ++ line.ending

/-- Put a character in front of the first line. -/
def consChar (c : Char) : List Line → List Line
  | [] => [⟨[c], []⟩]
  | line :: lines => ⟨c :: line.text, line.ending⟩ :: lines

/-- The lines of a text. A line ends with a line feed, a carriage return, or both in that
order. -/
def split : List Char → List Line
  | [] => []
  | '\n' :: rest => ⟨[], ['\n']⟩ :: split rest
  | '\r' :: '\n' :: rest => ⟨[], ['\r', '\n']⟩ :: split rest
  | '\r' :: rest => ⟨[], ['\r']⟩ :: split rest
  | c :: rest => consChar c (split rest)

/-- The characters up to and including the next line feed, and the lines after it: blocks of raw
text do not end their lines at a lone carriage return. -/
def raw : List Line → List Char × List Line
  | [] => ([], [])
  | line :: lines =>
    if line.ending = ['\r'] then
      let (more, rest) := raw lines
      (line.chars ++ more, rest)
    else (line.chars, lines)

end Line

/-- The text of a raw line from its LF-terminated characters: CR LF becomes LF. -/
def normalEnding (s : List Char) : List Char :=
  match s.reverse with
  | '\n' :: '\r' :: rest => rest.reverse ++ ['\n']
  | _ => s

/-- The characters from a point in a line up to the next line feed, and the lines after. -/
def rawFrom (text ending : List Char) (following : List Line) : List Char × List Line :=
  if ending = ['\r'] then
    let (more, rest) := Line.raw following
    (text ++ ending ++ more, rest)
  else (text ++ ending, following)

theorem length_raw_le (lines : List Line) : (Line.raw lines).2.length ≤ lines.length - 1 := by
  induction lines with
  | nil => simp [Line.raw]
  | cons line lines ih =>
    unfold Line.raw
    split
    · simp only [List.length_cons]; omega
    · simp

theorem length_rawFrom_le (text ending : List Char) (following : List Line) :
    (rawFrom text ending following).2.length ≤ following.length := by
  unfold rawFrom
  split
  · exact Nat.le_trans (length_raw_le following) (Nat.sub_le _ _)
  · exact Nat.le_refl _

/-- Blank within a line: space, tab, vertical tab, form feed. -/
def isLineBlank (c : Char) : Bool := c = ' ' || c = '\t' || c = '\x0b' || c = '\x0c'

/-- ASCII white space, line ends included. -/
def isSpace (c : Char) : Bool := isLineBlank c || c = '\n' || c = '\r'

/-- Whether nothing but blanks is left of a line. -/
def blankRest (s : List Char) : Bool := s.all isLineBlank

/-- A position in a line. -/
structure Cursor where
  /-- What is left of the line's text. -/
  rest : List Char
  /-- Characters passed since the last tab stop. -/
  column : Nat
  /-- Columns of a passed tab that are not used yet. -/
  spare : Nat
  /-- Characters passed in all. -/
  passed : Nat
  /-- A thematic break cannot start before this many characters. -/
  noBreakBefore : Nat
  deriving Repr, DecidableEq, Inhabited

namespace Cursor

/-- The start of a line. -/
def start (text : List Char) : Cursor := ⟨text, 0, 0, 0, 0⟩

/-- Step over one character that is not a tab. -/
def step (cursor : Cursor) : Cursor :=
  { cursor with rest := cursor.rest.tail, column := cursor.column + 1, passed := cursor.passed + 1 }

/-- Step over a number of characters, none of them a tab. -/
def advance : Nat → Cursor → Cursor
  | 0, cursor => cursor
  | n + 1, cursor => advance n cursor.step

/-- Use up columns from spaces and tabs of the text; the columns that were not there. -/
def skipText (cursor : Cursor) : List Char → Nat → Cursor × Nat
  | rest, 0 => ({ cursor with rest }, 0)
  | ' ' :: rest, n + 1 =>
    skipText { cursor with rest, column := cursor.column + 1, passed := cursor.passed + 1 } rest n
  | '\t' :: rest, n + 1 =>
    let width := 4 - cursor.column % 4
    let used := min width (n + 1)
    skipText { cursor with rest, column := 0, passed := cursor.passed + 1, spare := width - used }
      rest (n + 1 - used)
  | rest, n => ({ cursor with rest }, n)

/-- Use up to `n` columns; also the number of columns that were missing. -/
def skip (n : Nat) (cursor : Cursor) : Cursor × Nat :=
  let kept := min cursor.spare n
  skipText { cursor with spare := cursor.spare - kept } cursor.rest (n - kept)

/-- Use up to `n` columns; also the number used. -/
def skipUpTo (n : Nat) (cursor : Cursor) : Cursor × Nat :=
  let (after, missing) := cursor.skip n
  (after, n - missing)

/-- Whether the line's text is used up. -/
def atEnd (cursor : Cursor) : Bool := cursor.rest.isEmpty

/-- Step over a given character. -/
def eat? (c : Char) (cursor : Cursor) : Option Cursor :=
  match cursor.rest with
  | d :: _ => if d = c then some cursor.step else none
  | [] => none

/-- Step over all spaces and tabs. -/
def skipAll (cursor : Cursor) : Cursor :=
  let blanks := (cursor.rest.takeWhile fun c => c = ' ' || c = '\t').length
  { cursor with rest := cursor.rest.drop blanks, spare := 0, passed := cursor.passed + blanks }

end Cursor

end Folio.Markdown
