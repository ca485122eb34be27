import Folio.Text.Blank
import Folio.Text.Punctuation
import Folio.Markdown.Line

/-!
# Block markers

Recognisers for the markers that start or end a block. Each looks at the rest of one line, after
the indentation and the containers' own markers are taken away.
-/

namespace Folio.Markdown

/-- The number of times that a character is repeated at the start. -/
def countLeading (c : Char) (s : List Char) : Nat := (s.takeWhile (· = c)).length

/-- The scan for a thematic break of one character. The answer is `none` for a break, and else
the number of characters before which no break can start. -/
def breakObstacle (mark : Char) : List Char → (marks passed : Nat) → Option Nat
  | [], marks, passed => if 3 ≤ marks then none else some passed
  | c :: rest, marks, passed =>
    if c = mark then breakObstacle mark rest (marks + 1) (passed + 1)
    else if c = ' ' || c = '\t' then breakObstacle mark rest marks (passed + 1)
    else some passed

/-- As `breakObstacle`, with the mark read from the text. -/
def breakObstacle? : List Char → Option Nat
  | [] => some 0
  | c :: rest =>
    if c = '*' || c = '-' || c = '_' then breakObstacle c (c :: rest) 0 0 else some 0

/-- A thematic break: three or more equal marks, and blanks. -/
def isThematicBreak (s : List Char) : Bool := (breakObstacle? s).isNone

/-- The level of a heading marked by number signs. -/
def headingLevel? (s : List Char) : Option Nat :=
  let level := countLeading '#' s
  if 1 ≤ level && level ≤ 6 then
    match s.drop level with
    | [] => some level
    | c :: _ => if isSpace c then some level else none
  else none

/-- The level of a heading whose underline this line is. -/
def underlineLevel? : List Char → Option Nat
  | '=' :: rest => if blankRest (rest.dropWhile (· = '=')) then some 1 else none
  | '-' :: rest => if blankRest (rest.dropWhile (· = '-')) then some 2 else none
  | _ => none

/-- A code fence: its character and length. A fence of backticks has none in the rest of its
line. -/
def fence? (s : List Char) : Option (Char × Nat) :=
  match s with
  | [] => none
  | c :: _ =>
    if c = '`' || c = '~' then
      let size := countLeading c s
      if size < 3 || (c = '`' && (s.drop size).contains '`') then none else some (c, size)
    else none

/-- The line that closes a fence: at least as many marks, then spaces only. -/
def closesFence (mark : Char) (size : Nat) (s : List Char) : Bool :=
  size ≤ countLeading mark s && (s.dropWhile (· = mark)).all (· = ' ')

/-- The start number of a list item: at most nine digits. -/
def itemNumber? (s : List Char) : Option (Nat × List Char) :=
  let digits := s.takeWhile Char.isDigit
  if digits.isEmpty || 9 < digits.length then none
  else some (digits.foldl (fun n d => 10 * n + (d.toNat - 48)) 0, s.dropWhile Char.isDigit)

/-- What starts a list item: the mark that all items of a list share, and the item's number. -/
structure ItemMark where
  mark : Char
  number : Nat
  deriving Repr, DecidableEq

namespace ItemMark

/-- Whether the list is numbered. -/
def ordered (m : ItemMark) : Bool := m.mark = '.' || m.mark = ')'

/-- The mark at the start of a text, its width, and the text after it. -/
def read? (s : List Char) : Option (ItemMark × Nat × List Char) :=
  match s with
  | [] => none
  | c :: rest =>
    if c = '-' || c = '+' || c = '*' then some (⟨c, 0⟩, 1, rest)
    else
      match itemNumber? s with
      | some (number, d :: rest) =>
        if d = '.' || d = ')' then some (⟨d, number⟩, s.length - rest.length, rest) else none
      | _ => none

/-- The mark of an item that could end a paragraph, and the text after it. -/
def interrupting? (s : List Char) : Option (ItemMark × List Char) :=
  match read? s with
  | some (m, _, rest) =>
    match rest with
    | [] => some (m, [])
    | c :: _ => if c = ' ' || c = '\t' then some (m, rest) else none
  | none => none

end ItemMark

namespace Cursor

/-- After an item's mark: up to three more columns belong to its indentation; with more, or with
nothing in the line, only the one already used does. -/
def afterMark (cursor : Cursor) (indent : Nat) : Cursor × Nat :=
  if blankRest cursor.rest then (cursor, indent)
  else
    let (after, used) := cursor.skipUpTo 4
    if used < 4 then (after, indent + used) else (cursor, indent)

/-- Use the column after a mark, which must be there unless the line ends. -/
def gap? (cursor : Cursor) : Option Cursor :=
  let (after, missing) := cursor.skip 1
  if missing = 0 || after.atEnd then some after else none

/-- The mark of a list item, found at a given indentation; also the indentation that lines of
the item have, and the cursor after the mark. The cursor in front says where a break can be. -/
def itemMark? (cursor : Cursor) (indent : Nat) : Option (ItemMark × Nat) × Cursor :=
  match ItemMark.read? cursor.rest with
  | none => (none, cursor)
  | some (m, width, _) =>
    let obstacle :=
      if m.ordered || cursor.passed < cursor.noBreakBefore then some cursor.noBreakBefore
      else breakObstacle? cursor.rest
    match obstacle with
    | none => (none, cursor)
    | some offset =>
      match ({ cursor with noBreakBefore := offset }.advance width).gap? with
      | none => (none, cursor)
      | some after =>
        let (after, indent) := after.afterMark (indent + width + 1)
        (some (m, indent), after)

/-- The mark of a definition: a colon and an optional column after it, indented like a bullet. -/
def definitionMark? (cursor : Cursor) (indent : Nat) : Option (Nat × Cursor) := do
  let after ← cursor.eat? ':'
  let (after, indent) := (after.skip 1).1.afterMark (indent + 2)
  some (indent, after)

/-- The mark of a quotation, and the optional column after it. -/
def quoteMark? (cursor : Cursor) : Option Cursor := do
  let after ← cursor.eat? '>'
  some (after.skip 1).1

end Cursor

/-- Kinds of quotation that are set apart as a notice. -/
inductive Notice where
  | note
  | tip
  | important
  | warning
  | caution
  deriving Repr, DecidableEq

namespace Notice

/-- The kinds with the words that mark them. -/
def tags : List (Notice × String) :=
  [(.note, "note"), (.tip, "tip"), (.important, "important"), (.warning, "warning"),
    (.caution, "caution")]

/-- The word that names a kind. -/
def tag (notice : Notice) : String := ((tags.find? (·.1 = notice)).map (·.2)).getD ""

/-- A notice mark such as `[!NOTE]`, in any case, alone in the rest of its line. -/
def read? (s : List Char) : Option Notice :=
  match Text.dropStart? "[!".toList s with
  | none => none
  | some s =>
    let word := (s.takeWhile (· ≠ ']')).map Char.toLower
    match s.dropWhile (· ≠ ']') with
    | ']' :: rest =>
      if blankRest rest then (tags.find? (·.2.toList = word)).map (·.1) else none
    | _ => none

end Notice

/-- The mark of a task at the start of an item: whether it is done, and the number of characters
passed. White space must follow it in its line. -/
def taskMark? (cursor : Cursor) : Option (Bool × Cursor) := do
  let inside ← (cursor.skip 3).1.eat? '['
  match inside.rest with
  | c :: ']' :: after :: _ =>
    let done ← if isLineBlank c then some false else if c = 'x' || c = 'X' then some true else none
    if isLineBlank after then some (done, inside.step.step) else none
  | _ => none

/-- How the cells of a table's column are aligned. -/
inductive Alignment where
  | none
  | left
  | center
  | right
  deriving Repr, DecidableEq, Inhabited

/-- The scan of a delimiter row. -/
structure DelimiterScan where
  columns : List Alignment
  alignment : Alignment
  atStart : Bool
  pipe : Bool
  hyphen : Bool
  hyphenInColumn : Bool

namespace DelimiterScan

/-- One character of a delimiter row; `none` if it cannot occur there. -/
def step (scan : DelimiterScan) (c : Char) : Option DelimiterScan :=
  match c with
  | ' ' => some scan
  | ':' =>
    let alignment :=
      match scan.atStart, scan.alignment with
      | true, .none => .left
      | false, .left => .center
      | false, .none => .right
      | _, alignment => alignment
    some { scan with alignment, atStart := false }
  | '-' => some { scan with atStart := false, hyphen := true, hyphenInColumn := true }
  | '|' =>
    if scan.hyphenInColumn then
      some
        { scan with
          atStart := true, pipe := true, columns := scan.columns ++ [scan.alignment],
          alignment := .none, hyphenInColumn := false }
    else none
  | _ => none

end DelimiterScan

/-- The alignments of a delimiter row: a pipe, a hyphen in every column but a last empty one, and
at most three columns of indentation. -/
def delimiterRow? (s : List Char) : Option (List Alignment) :=
  let (after, used) := (Cursor.start s).skipUpTo 4
  if used = 4 || after.atEnd then none
  else
    let (pipe, body) := match after.rest with | '|' :: rest => (true, rest) | rest => (false, rest)
    match body.foldlM DelimiterScan.step ⟨[], .none, true, pipe, false, false⟩ with
    | none => none
    | some scan =>
      if scan.pipe && scan.hyphen then
        some (if scan.atStart then scan.columns else scan.columns ++ [scan.alignment])
      else none

/-- The pipes of a line that have no backslash in front, and the text after the last one. -/
def pipes : List Char → (count : Nat) → (afterLast : List Char) → Nat × List Char
  | [], count, afterLast => (count, afterLast)
  | '\\' :: '|' :: rest, count, afterLast => pipes rest count afterLast
  | '|' :: rest, count, _ => pipes rest (count + 1) rest
  | _ :: rest, count, afterLast => pipes rest count afterLast

/-- The number of cells in a table's first row: `none` without a pipe. -/
def headerColumns? (s : List Char) : Option Nat :=
  let (count, afterLast) := pipes s 0 []
  if count = 0 then none
  else
    let leading := match s.dropWhile isLineBlank with | '|' :: _ => 1 | _ => 0
    some (count - leading + if blankRest afterLast then 0 else 1)

/-- Whether two lines are the first row and the delimiter row of a table. -/
def tableHead? (first second : List Char) : Option (List Alignment) := do
  let columns ← headerColumns? first
  let alignments ← delimiterRow? second
  if alignments.length = columns then some alignments else none

/-- The end mark of a raw HTML block that runs up to it, from the text after `<`. -/
def htmlEnd? (s : List Char) : Option String :=
  let elements :=
    [("pre", "</pre>"), ("style", "</style>"), ("script", "</script>"),
      ("textarea", "</textarea>")]
  let starts := [("!--", "-->"), ("?", "?>"), ("![CDATA[", "]]>")]
  let named := elements.find? fun (name, _) =>
    match Text.dropStart? name.toList (s.take name.length |>.map Char.toLower) with
    | some _ =>
      match s.drop name.length with
      | [] => true
      | c :: _ => isSpace c || c = '>'
    | none => false
  match named with
  | some (_, close) => some close
  | none =>
    match starts.find? fun (start, _) => Text.startsWith start.toList s with
    | some (_, close) => some close
    | none =>
      match s with
      | '!' :: c :: _ => if c.isAlpha then some ">" else none
      | _ => none

/-- Elements whose tags start a raw HTML block that runs up to a blank line. -/
def blockElements : List String :=
  ["address", "article", "aside", "base", "basefont", "blockquote", "body", "caption", "center",
    "col", "colgroup", "dd", "details", "dialog", "dir", "div", "dl", "dt", "fieldset",
    "figcaption", "figure", "footer", "form", "frame", "frameset", "h1", "h2", "h3", "h4", "h5",
    "h6", "head", "header", "hr", "html", "iframe", "legend", "li", "link", "main", "menu",
    "menuitem", "nav", "noframes", "ol", "optgroup", "option", "p", "param", "search", "section",
    "summary", "table", "tbody", "td", "tfoot", "th", "thead", "title", "tr", "track", "ul"]

/-- Whether the text after `<` is the tag of a block element. -/
def startsBlockElement (s : List Char) : Bool :=
  let tail := match s with | '/' :: rest => rest | rest => rest
  let name := tail.takeWhile Char.isAlphanum
  blockElements.contains (String.ofList (name.map Char.toLower)) &&
    match tail.drop name.length with
    | [] => true
    | '/' :: '>' :: _ => true
    | c :: _ => c = ' ' || c = '\t' || c = '>'

/-- A fence of a metadata block: three marks and blanks. -/
def opensMetadata (mark : Char) (s : List Char) : Bool :=
  countLeading mark s = 3 && (s.dropWhile (· = mark)).all isSpace

/-- The line that closes a metadata block: three marks, or three dots for hyphens, then spaces
only. -/
def closesMetadata (mark : Char) (s : List Char) : Bool :=
  (countLeading mark s = 3 && (s.dropWhile (· = mark)).all (· = ' ')) ||
    (mark = '-' && countLeading '.' s = 3 && (s.dropWhile (· = '.')).all (· = ' '))

/-- The mark of a metadata block that starts at the first line: a later line closes it, and the
line after the first is neither blank nor a closing one. -/
def metadataMark? (text : List Char) (following : List Line) : Option Char :=
  match text with
  | [] => none
  | c :: _ =>
    if (c = '-' || c = '+') && opensMetadata c text then
      match following with
      | [] => none
      | first :: more =>
        if blankRest first.text || closesMetadata c first.text then none
        else if more.any fun line => closesMetadata c line.text then some c
        else none
    else none

end Folio.Markdown
