import Folio.Markdown.Block.Frames

/-!
# Where a paragraph ends

A line belongs to the paragraph before it unless it starts a block that may interrupt one. Where the
line lacks markers of open containers, it still belongs to it, but any item then interrupts.
-/

namespace Folio.Markdown

/-- Whether a footnote's definition starts here. -/
def startsFootnote (s : List Char) : Bool :=
  match s with
  | '[' :: '^' :: rest =>
    match label? false (Source.ofText rest) with
    | some (_, after) => Text.startsWith [':'] after.chars
    | none => false
  | _ => false

/-- What surrounds a line that may end a paragraph. -/
structure Surroundings where
  scan : BlockScan
  /-- How many open containers, outermost first, the line has the markers of. -/
  passed : Nat
  /-- Whether the lines before are a paragraph. -/
  inParagraph : Bool
  inTable : Bool

namespace Surroundings

/-- Whether the line has the markers of all open containers. -/
def inside (around : Surroundings) : Bool := around.passed = around.scan.frames.length

/-- Whether the first container whose marker the line lacks is a definition. -/
def leavesDefinition (around : Surroundings) : Bool :=
  match around.scan.frames.reverse[around.passed]? with
  | some frame => match frame.kind with | .definition _ => true | _ => false
  | none => false

/-- Whether the mark of a definition counts here. -/
def allowsDefinition (around : Surroundings) : Bool :=
  (around.inside && around.inParagraph) || around.leavesDefinition

end Surroundings

/-- Whether a line cannot belong to the paragraph of the lines before it. -/
def interrupts (around : Surroundings) (text ending : List Char) (following : List Line) : Bool :=
  text.isEmpty || isThematicBreak text || (headingLevel? text).isSome ||
    (fence? (rawFrom text ending following).1).isSome || text.head? = some '>' ||
    (match ItemMark.interrupting? text with
      | some (m, rest) =>
        !around.inside || around.inTable || ((!m.ordered || m.number = 1) && !blankRest rest)
      | none => false) ||
    (match text with
      | '<' :: rest => (htmlEnd? rest).isSome || startsBlockElement rest
      | _ => false) ||
    (text.head? = some ':' && around.allowsDefinition) ||
    startsFootnote text ||
    (text.head? = some '|' &&
      match following with
      | next :: _ =>
        let (all, cursor) := around.scan.pass (Cursor.start next.text)
        all && (tableHead? text cursor.rest).isSome
      | [] => false)

/-- The source from a point in a line on, as far as lines go that could continue a paragraph. -/
def continuation (scan : BlockScan) (text ending : List Char) : List Line → Source
  | [] => Source.ofText (text ++ ending)
  | next :: following =>
    let (passed, marked) := scan.reach (Cursor.start next.text)
    let (indented, missing) := marked.skip 4
    let around : Surroundings := ⟨scan, passed, false, false⟩
    let stops :=
      missing ≠ 0 &&
        (interrupts around indented.rest next.ending following ||
          (around.inside && (underlineLevel? indented.rest).isSome))
    if stops then Source.ofText (text ++ ending)
    else
      Source.ofText (text ++ ending) ++
        Source.ofRole .container (next.text.take marked.passed) ++
        continuation scan marked.rest next.ending following

end Folio.Markdown
