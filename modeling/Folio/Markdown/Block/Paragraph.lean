import Folio.Markdown.Block.Interrupt

/-!
# The text of blocks

Headings, tables and paragraphs are made of lines. Their tokens are read line by line, where what a
line starts with and what ends it are tokens, too, or part of them.
-/

namespace Folio.Markdown

/-- A line of a paragraph: what stands in front of its text, the text, and the line's end. -/
structure Segment where
  /-- The containers' markers. -/
  marks : List Char
  /-- The indentation after them. -/
  indent : List Char
  text : List Char
  ending : List Char
  deriving Repr, Inhabited

namespace Segment

/-- The source in front of the text. -/
def lead (segment : Segment) : Source :=
  Source.ofRole .container segment.marks ++ Source.ofRole .indent segment.indent

end Segment

/-- A line's text and what makes the break after it: a last backslash that is not itself escaped,
or blanks. -/
def splitBreak (text : List Char) : List Char × List Char × TokenKind :=
  let backslashes := (text.reverse.takeWhile (· = '\\')).length
  if backslashes % 2 = 1 then (text.dropLast, ['\\'], .hardBreak true)
  else
    let kept := Text.dropEndWhile isLineBlank text
    let blanks := text.drop kept.length
    (kept, blanks, if 2 ≤ blanks.length then .hardBreak false else .softBreak)

/-- The tokens of a paragraph's lines. The blanks at the end of the last one are dropped; what
stands in `beyond` comes after it. -/
def tokenize (braces : Braces) (beyond : List Char) : List Segment → List Token
  | [] => []
  | [segment] =>
    let kept := Text.dropEndWhile isLineBlank segment.text
    (tokenizeLine false kept (segment.text.drop kept.length ++ beyond) braces).1
  | segment :: next :: rest =>
    let (kept, cut, kind) := splitBreak segment.text
    let (tokens, braces) := tokenizeLine false kept (cut ++ segment.ending) braces
    let lineEnd : Token := ⟨Source.ofText (cut ++ segment.ending) ++ next.lead, kind⟩
    tokens ++ lineEnd :: tokenize braces beyond (next :: rest)

/-- Words between ASCII white space. -/
def asciiWords (s : List Char) : List (List Char) :=
  Text.CodePoints.words (s.map fun c => if isSpace c && c ≠ '\x0b' then ' ' else c) []

namespace HeadingAttributes

/-- No attributes. -/
def empty : HeadingAttributes := ⟨none, [], []⟩

/-- Read one word between the braces; a word of one character is ignored. -/
def addWord (attributes : HeadingAttributes) (word : List Char) : HeadingAttributes :=
  if (String.ofList word).utf8ByteSize ≤ 1 then attributes
  else
    match word with
    | '#' :: id => { attributes with id := some id }
    | '.' :: name => { attributes with classes := attributes.classes ++ [name] }
    | _ =>
      let key := word.takeWhile (· ≠ '=')
      let value := match word.drop key.length with | _ :: value => some value | [] => none
      { attributes with others := attributes.others ++ [(key, value)] }

/-- Split the braces off the end of a heading's text. -/
def split (text : List Char) : List Char × Option HeadingAttributes :=
  let trimmed := Text.dropEndWhile (fun c => c = '\n' || c = '\r' || c = ' ' || c = '\t') text
  match trimmed.reverse with
  | '}' :: rest =>
    let inside := rest.takeWhile fun c =>
      !(c = '{' || c = '}' || c = '<' || c = '>' || c = '\\' || c = '\n' || c = '\r')
    match rest.drop inside.length with
    | '{' :: front => (front.reverse, some ((asciiWords inside.reverse).foldl addWord empty))
    | _ => (text, none)
  | _ => (text, none)

end HeadingAttributes

/-- The part of a marked heading's text that is left when a closing run of number signs is taken
off its end. -/
def dropClosingMarks (text : List Char) : List Char :=
  let kept := Text.dropEndWhile (fun c => c = '\n' || c = '\r' || c = ' ') text
  let front := Text.dropEndWhile (· = '#') kept
  if front.isEmpty then []
  else
    let bare := Text.dropEndWhile (· = ' ') front
    if bare.length < front.length then bare else kept

/-- The tokens of a marked heading, from its text, which may end with a line end, and what is
`beyond` it; `more` says that a line follows. Of the text only the first line is read, without the
blanks at its end or a last backslash. What is left over, but for the closing marks, goes to the
last token. -/
def headingTokens (content beyond : List Char) (more : Bool) : List Token :=
  let line := content.takeWhile fun c => c ≠ '\n' && c ≠ '\r'
  let after := Source.lineEnd? (Source.ofText (content.drop line.length))
  let backslashes := (line.reverse.takeWhile (· = '\\')).length
  let breaks := match after with | some rest => more || !rest.isEmpty | none => false
  let body :=
    if backslashes % 2 = 1 && breaks then line.dropLast else Text.dropEndWhile isLineBlank line
  let kept := dropClosingMarks content
  let text := body.take kept.length
  let tokens := (tokenizeLine false text (content.drop text.length ++ beyond) Braces.empty).1
  match tokens.reverse with
  | last :: others => (last.extend (kept.drop text.length) :: others).reverse
  | [] => []

/-- The cells of a row: the text between pipes that are not escaped, without blanks around it.
A pipe may come first, and nothing but blanks after the last one is no cell. -/
def rowCells (text : List Char) : List (List Char) :=
  let text := match text with | '|' :: rest => rest | _ => text
  cells text []
where
  /-- The cells, with the text of the current one in reverse. -/
  cells : List Char → List Char → List (List Char)
    | [], current => if current.all isLineBlank then [] else [current.reverse]
    | '\\' :: '|' :: rest, current => cells rest ('|' :: '\\' :: current)
    | '|' :: rest, current => current.reverse :: cells rest []
    | c :: rest, current => cells rest (c :: current)

/-- The tokens of a row's cells: as many as there are columns. -/
def rowTokens (columns : Nat) (braces : Braces) (cells : List (List Char)) :
    List (List Token) × Braces :=
  let step (acc : List (List Token) × Braces) (cell : List Char) : List (List Token) × Braces :=
    let text := Text.dropEndWhile isLineBlank (cell.dropWhile isLineBlank)
    let (tokens, braces) := tokenizeLine true text [] acc.2
    (acc.1 ++ [tokens], braces)
  let (tokens, braces) := cells.foldl step ([], braces)
  (tokens.take columns ++ List.replicate (columns - tokens.length) [], braces)

/-- The rows of a table after its delimiter row, and the lines after them. -/
def tableRows (scan : BlockScan) (columns : Nat) (braces : Braces) :
    List Line → List (List (List Token)) × List Line
  | [] => ([], [])
  | line :: following =>
    let (passed, marked) := scan.reach (Cursor.start line.text)
    let around : Surroundings := ⟨scan, passed, false, true⟩
    let text := marked.skipAll.rest
    let cells := rowCells text
    if !around.inside || cells.isEmpty || interrupts around text line.ending following then
      ([], line :: following)
    else
      let (row, braces) := rowTokens columns braces cells
      let (rows, rest) := tableRows scan columns braces following
      (row :: rows, rest)

/-- How a paragraph ended. -/
inductive ParagraphEnd where
  /-- In front of a line that does not belong to it, or at the end of the document. -/
  | plain
  /-- At an underline. -/
  | underlined (level : Nat)

/-- The lines of a paragraph after one of its lines: the segments in order, how it ends, and the
lines after it. -/
def paragraphLines (scan : BlockScan) : List Line → List Segment × ParagraphEnd × List Line
  | [] => ([], .plain, [])
  | line :: following =>
    let (passed, marked) := scan.reach (Cursor.start line.text)
    let around : Surroundings := ⟨scan, passed, true, false⟩
    let (indented, missing) := marked.skip 4
    let underline := if around.inside then underlineLevel? indented.rest else none
    if missing ≠ 0 && underline.isSome then ([], .underlined (underline.getD 1), following)
    else if missing ≠ 0 && interrupts around indented.rest line.ending following then
      ([], .plain, line :: following)
    else
      let body := indented.skipAll
      if body.atEnd then ([], .plain, line :: following)
      else
        let segment : Segment :=
          ⟨line.text.take marked.passed, (line.text.take body.passed).drop marked.passed, body.rest,
            line.ending⟩
        let (segments, ended, rest) := paragraphLines scan following
        (segment :: segments, ended, rest)

/-- Change the last element of a list. -/
def mapLast {α : Type} (f : α → α) : List α → List α
  | [] => []
  | [a] => [f a]
  | a :: b :: rest => a :: mapLast f (b :: rest)

/-- The block that a paragraph's lines make. -/
def paragraphBlock (role : ParagraphRole) (task : Option Bool) (segments : List Segment) :
    ParagraphEnd → Block
  | .plain => .paragraph role ⟨task, tokenize Braces.empty [] segments⟩
  | .underlined level =>
    match segments.getLast? with
    | none => .heading level .empty ⟨task, []⟩
    | some last =>
      let (kept, cut, kind) := splitBreak last.text
      let (content, attributes) := HeadingAttributes.split kept
      match attributes with
      | none => .heading level .empty ⟨task, tokenize Braces.empty [] segments⟩
      | some attributes =>
        let text := if kind = .hardBreak true then content ++ cut else content
        let segments := mapLast (fun segment => { segment with text }) segments
        .heading level attributes
          ⟨task, tokenize Braces.empty (last.text.drop content.length) segments⟩

/-- Read a paragraph whose first line's text is given, or the table that it turns out to be. A task
mark in front of it is dropped from a table. -/
def readParagraph (scan : BlockScan) (task : Option Bool) (marks text ending : List Char)
    (following : List Line) : BlockScan × List Line :=
  let candidate :=
    match scan.frames with
    | frame :: _ =>
      match frame.kind, frame.children with
      | .definitions _, [] => true
      | .definitions _, .container (.definition _) _ :: _ => true
      | _, _ => false
    | [] => false
  let scan := if candidate then { scan with blank := false } else scan.finishList
  let role := if candidate then ParagraphRole.candidate else .loose
  let backslashes := (text.reverse.takeWhile (· = '\\')).length
  let table : Option (List Alignment × List Line) :=
    match following with
    | next :: after =>
      let (inside, marked) := scan.pass (Cursor.start next.text)
      if inside && backslashes % 2 = 0 then
        (tableHead? text marked.rest).map fun alignments => (alignments, after)
      else none
    | [] => none
  match table with
  | some (alignments, after) =>
    let columns := alignments.length
    let (head, braces) := rowTokens columns Braces.empty (rowCells text)
    let (rows, rest) := tableRows scan columns braces after
    (scan.add (.table alignments head rows), rest)
  | none =>
    let (segments, ended, rest) := paragraphLines scan following
    let first : Segment := ⟨marks, [], text, ending⟩
    (scan.add (paragraphBlock role task (first :: segments) ended), rest)

end Folio.Markdown
