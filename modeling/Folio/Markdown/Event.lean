import Folio.Markdown.Document

/-!
# Events

A document as a flat list: each element gives a start, what it holds, and a finish. A change to
a document, such as the colouring of its code, is a function on this list.
-/

namespace Folio.Markdown

/-- An element that holds others. -/
inductive Tag where
  | paragraph
  | heading (level : Nat) (attributes : HeadingAttributes)
  | quote (notice : Option Notice)
  /-- A code block, with its fence's information if it has a fence. -/
  | code (info : Option (List Char))
  /-- A list, with its first number if it is numbered. -/
  | list (first : Option Nat)
  | item
  | definitions
  | title
  | definition
  | footnote (label : List Char)
  | table (alignments : List Alignment)
  | tableHead
  | tableRow
  | tableCell
  | stress (kind : Stress)
  | link (kind : LinkKind) (target : Target)
  deriving Repr, Inhabited

/-- A step through a document. -/
inductive Event where
  | start (tag : Tag)
  | finish (tag : Tag)
  | text (s : List Char)
  | code (s : List Char)
  | math (display : Bool) (s : List Char)
  | html (s : List Char)
  | softBreak
  | hardBreak
  | rule
  | footnoteReference (label : List Char)
  | task (done : Bool)
  deriving Repr, Inhabited

namespace Event

/-- An element around events. -/
def element (tag : Tag) (inside : List Event) : List Event :=
  .start tag :: inside ++ [.finish tag]

end Event

mutual

/-- The events of an inline element. -/
def Inline.events : Inline → List Event
  | .text s => [.text s]
  | .code s => [.code s]
  | .math display s => [.math display s]
  | .html s => [.html s]
  | .softBreak => [.softBreak]
  | .hardBreak => [.hardBreak]
  | .stress kind children => Event.element (.stress kind) (Inline.listEvents children)
  | .link kind target children => Event.element (.link kind target) (Inline.listEvents children)
  | .footnote label => [.footnoteReference label]
  | .task done => [.task done]

/-- The events of inline elements in a row. -/
def Inline.listEvents : List Inline → List Event
  | [] => []
  | element :: rest => Inline.events element ++ Inline.listEvents rest

end

namespace Leaf

/-- The events of a block's text. -/
def events (leaf : Leaf) : StateM References (List Event) := do
  let task := match leaf.task with | some done => [Event.task done] | none => []
  let elements ← Inline.ofTokens false leaf.tokens
  return task ++ Inline.listEvents elements

end Leaf

/-- The events of a row's cells. -/
def cellEvents (cells : List (List Token)) : StateM References (List Event) := do
  let cells ← cells.mapM (Inline.ofTokens true)
  return cells.flatMap fun elements => Event.element .tableCell (Inline.listEvents elements)

/-- The tag of a container, if it has one. -/
def Container.tag? : Container → Option Tag
  | .document => none
  | .quote notice => some (.quote notice)
  | .list mark _ => some (.list (if mark.ordered then some mark.number else none))
  | .item _ => some .item
  | .definitions _ => some .definitions
  | .definition _ => some .definition
  | .footnote label => some (.footnote label)

mutual

/-- The events of a block. -/
def Block.events : Block → StateM References (List Event)
  | .container kind children => do
    let inside ← Block.listEvents children
    return match kind.tag? with | some tag => Event.element tag inside | none => inside
  | .paragraph role text => do
    let inside ← text.events
    return if role = .tight then inside else Event.element .paragraph inside
  | .title text => Event.element .title <$> text.events
  | .heading level attributes text => Event.element (.heading level attributes) <$> text.events
  | .rule => pure [.rule]
  | .code info text => pure (Event.element (.code info) (if text.isEmpty then [] else [.text text]))
  | .html lines =>
    pure <| lines.flatMap fun (columns, line) =>
      (if columns = 0 then [] else [.text (List.replicate columns ' ')]) ++ [.html line]
  | .table alignments head rows => do
    let head ← cellEvents head
    let rows ← rows.mapM cellEvents
    return Event.element (.table alignments)
      (Event.element .tableHead head ++ rows.flatMap (Event.element .tableRow))
  | .task done => pure [.task done]
  | .metadata => pure []

/-- The events of blocks in a row. -/
def Block.listEvents : List Block → StateM References (List Event)
  | [] => pure []
  | block :: rest => do
    let first ← Block.events block
    let others ← Block.listEvents rest
    return first ++ others

end

/-- The events of a document. The references in front are the first to be written out. -/
def Document.events (document : Document) : List Event :=
  (Block.listEvents document.blocks document.references).1

end Folio.Markdown
