import Folio.Markdown.Block.Definition
import Folio.Markdown.Block.Raw

/-!
# Documents

A document is read line by line: the open containers each take their marker off a line, markers of
new containers open them, and what is left of the line starts, continues or ends a leaf.
-/

namespace Folio.Markdown

/-- A point in a line where a block may start. -/
structure Point where
  /-- What the line has in front of the cursor's own start. -/
  passed : List Char
  /-- The line's text from the cursor's own start. -/
  text : List Char
  cursor : Cursor
  ending : List Char
  following : List Line

namespace Point

/-- All that stands in front of the cursor in its line. -/
def marks (point : Point) : List Char := point.passed ++ point.text.take point.cursor.passed

/-- The start of a line. -/
def ofLine (line : Line) (following : List Line) : Point :=
  ⟨[], line.text, Cursor.start line.text, line.ending, following⟩

end Point

/-- What follows the markers of new containers. -/
inductive Opening where
  /-- A point where a leaf starts. -/
  | leaf (point : Point)
  /-- A paragraph behind the mark of a task. -/
  | task (done : Bool) (point : Point)
  /-- Nothing in this line: the lines to go on with. -/
  | done (rest : List Line)

/-- Open a footnote. One that is open ends here. -/
def BlockScan.openFootnote (label : List Char) (scan : BlockScan) : BlockScan :=
  let scan := scan.finishList
  let scan := match scan.top with | .footnote _ => scan.close | _ => scan
  scan.openContainer (.footnote label)

/-- Turn the paragraph in front into the title of a definition. -/
def BlockScan.entitle (scan : BlockScan) : Option BlockScan :=
  match scan.frames with
  | frame :: frames =>
    match frame.kind, frame.children with
    | _, .paragraph .loose text :: others =>
      let frames := { frame with children := others } :: frames
      some { scan with frames := ⟨.definitions true, [.title text]⟩ :: frames }
    | .definitions _, .paragraph .candidate text :: others =>
      some { scan with frames := { frame with children := .title text :: others } :: frames }
    | .definitions _, .container (.definition _) _ :: _ => some scan
    | _, _ => none
  | [] => none

/-- Open the containers whose markers come next. The fuel bounds the markers. -/
def openContainers (fuel : Nat) (scan : BlockScan) (point : Point) : BlockScan × Opening :=
  match fuel with
  | 0 => (scan, .leaf point)
  | fuel + 1 =>
    let (cursor, indent) := point.cursor.skipUpTo 4
    if 4 ≤ indent then (scan, .leaf point)
    else
      match footnoteDefinition? scan cursor.rest point.ending point.following with
      | some (label, rest, lines) =>
        let scan := scan.openFootnote label
        let following := point.following.drop lines
        if blankRest rest then
          match following with
          | [] => (scan, .done [])
          | next :: following => openContainers fuel scan (Point.ofLine next following)
        else
          let ending :=
            match lines with
            | 0 => point.ending
            | n + 1 => (point.following[n]?.map (·.ending)).getD []
          openContainers fuel scan ⟨[':'], rest, Cursor.start rest, ending, following⟩
      | none =>
        let (item, cursor) := cursor.itemMark? indent
        match item with
        | some (mark, indent) =>
          let scan := (scan.continueList mark).openContainer (.item indent)
          if blankRest cursor.rest then ({ scan with hollow := true }, .done point.following)
          else
            match taskMark? cursor with
            | some (done, cursor) =>
              if blankRest cursor.rest then
                ({ scan.add (.task done) with hollow := true }, .done point.following)
              else (scan, .task done { point with cursor := cursor.skipAll })
            | none => openContainers fuel scan { point with cursor }
        | none =>
          let definition := do
            let (indent, after) ← cursor.definitionMark? indent
            let scan ← scan.entitle
            some (indent, after, scan)
          match definition with
          | some (indent, cursor, scan) =>
            let scan := scan.loosenIfBlank.openContainer (.definition indent)
            if blankRest cursor.rest then ({ scan with hollow := true }, .done point.following)
            else openContainers fuel scan { point with cursor }
          | none =>
            match cursor.quoteMark? with
            | some cursor =>
              let notice := Notice.read? cursor.rest
              let scan := scan.finishList.openContainer (.quote notice)
              match notice, point.following with
              | none, _ => openContainers fuel scan { point with cursor }
              | some _, [] => (scan, .done [])
              | some _, next :: following =>
                let (passed, marked) := scan.reach (Cursor.start next.text)
                let (indented, missing) := marked.skip 4
                let around : Surroundings := ⟨scan, passed, false, false⟩
                if missing ≠ 0 && interrupts around indented.rest next.ending following then
                  (scan, .done (next :: following))
                else
                  (scan, .leaf { Point.ofLine next following with cursor := indented.skipAll })
            | none => (scan, .leaf point)

/-- Read a heading that is marked in front, of the level of its marks. Its text ends with a line
feed only. -/
def readHeading (scan : BlockScan) (level : Nat) (text ending : List Char) (following : List Line) :
    BlockScan × List Line :=
  let scan := scan.finishList
  match text.drop level with
  | [] => (scan.add (.heading level .empty ⟨none, []⟩), following)
  | body =>
    let (raw, rest) := rawFrom body ending following
    let raw := raw.dropWhile isLineBlank
    let (content, attributes) := HeadingAttributes.split raw
    let tokens := headingTokens content (raw.drop content.length) (!rest.isEmpty)
    (scan.add (.heading level (attributes.getD .empty) ⟨none, tokens⟩), rest)

/-- Read the leaf that starts at a point. -/
def readLeaf (scan : BlockScan) (point : Point) : BlockScan × List Line :=
  let spare := point.cursor.spare
  let (cursor, indent) := point.cursor.skipUpTo 4
  let text := cursor.rest
  let following := point.following
  if indent = 4 then
    let scan := scan.finishList
    let (code, blank, rest) := indentedLines scan cursor.spare text point.ending following
    ({ scan.add (.code none code) with blank }, rest)
  else
    match if indent = 0 then metadataMark? text following else none with
    | some mark =>
      let scan := scan.finishList.add .metadata
      (scan, metadataLines scan mark following)
    | none =>
      let html : Option (Option String) :=
        match text with
        | '<' :: tag =>
          match htmlEnd? tag with
          | some close => some (some close)
          | none =>
            let alone :=
              match tag? false (Source.ofText tag) with
              | some after => blankRest after.chars
              | none => false
            if startsBlockElement tag || alone then some none else none
        | _ => none
      match html with
      | some close =>
        let scan := scan.finishList
        let (lines, rest) := htmlLines scan close (max spare indent) text point.ending following
        (scan.add (.html lines), rest)
      | none =>
        if isThematicBreak text then (scan.finishList.add .rule, following)
        else
          match headingLevel? text, fence? (rawFrom text point.ending following).1 with
          | some level, _ => readHeading scan level text point.ending following
          | none, some (mark, size) =>
            let scan := scan.finishList
            let (raw, rest) := rawFrom (text.drop size) point.ending following
            let info := Text.dropEndWhile isSpace (raw.dropWhile isLineBlank)
            let (code, rest) := fencedLines scan mark size indent rest
            (scan.add (.code (some (unescape false info)) code), rest)
          | none, none =>
            readText scan { point with cursor }.marks text point.ending following

/-- A blank line: it may end an item that began with one. -/
def BlockScan.passBlank (scan : BlockScan) : BlockScan :=
  match scan.frames with
  | frame :: frames =>
    match frame.kind with
    | .quote _ => scan
    | .item _ =>
      if scan.hollow then
        { scan with blank := true, frames := { frame with kind := .item 0 } :: frames }
      else { scan with blank := true }
    | .definition _ =>
      if scan.hollow then
        { scan with blank := true, frames := { frame with kind := .definition 0 } :: frames }
      else { scan with blank := true }
    | _ => { scan with blank := true }
  | [] => scan

/-- Read one block, or the part of one that a line starts. No line has more markers than `bound`. -/
def readBlock (bound : Nat) (scan : BlockScan) (line : Line) (following : List Line) :
    BlockScan × List Line :=
  let (n, cursor) := scan.reach (Cursor.start line.text)
  let scan := scan.closeTo n
  let scan :=
    match scan.top with
    | .footnote _ => if scan.blank then scan.close else scan
    | _ => scan
  match openContainers bound scan { Point.ofLine line following with cursor } with
  | (scan, .done rest) => (scan, rest)
  | (scan, .task done point) =>
    readParagraph scan (some done) point.marks point.cursor.rest point.ending point.following
  | (scan, .leaf point) =>
    if blankRest point.cursor.rest then (scan.passBlank, point.following)
    else readLeaf scan point

/-- Read lines until none is left; every block takes at least one. -/
def readBlocks (bound : Nat) (scan : BlockScan) : List Line → BlockScan
  | [] => scan
  | line :: following =>
    let (scan, rest) := readBlock bound scan line following
    if rest.length ≤ following.length then readBlocks bound scan rest else scan
termination_by lines => lines.length

/-- A document: its blocks and the targets that it defines. -/
structure Document where
  blocks : List Block
  references : References

/-- Read a document. -/
def Document.read (text : List Char) : Document :=
  let initial := BlockScan.initial (String.ofList text).utf8ByteSize
  let scan := (readBlocks (text.length + 1) initial (Line.split text)).closeTo 1
  ⟨(scan.frames.head?.map (·.children.reverse)).getD [], scan.references⟩

end Folio.Markdown
