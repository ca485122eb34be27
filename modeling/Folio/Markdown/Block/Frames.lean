import Folio.Markdown.Block

/-!
# Open containers

While a document is read, its last blocks are still open: a stack of containers, each with what it
holds so far. A blank line does not close a list, but makes it loose if the list goes on.
-/

namespace Folio.Markdown

/-- An open container with its children so far, in reverse. -/
structure Frame where
  kind : Container
  children : List Block
  deriving Inhabited

/-- The state of the block reader. -/
structure BlockScan where
  /-- The open containers, innermost first. -/
  frames : List Frame
  /-- Whether the line before was blank. -/
  blank : Bool
  /-- Whether the innermost item's first line was blank. -/
  hollow : Bool
  references : References
  deriving Inhabited

namespace BlockScan

/-- The state before the first line of a text of a size in bytes. -/
def initial (size : Nat) : BlockScan := ⟨[⟨.document, []⟩], false, false, .empty size⟩

/-- Add a block to the innermost container. -/
def add (block : Block) (scan : BlockScan) : BlockScan :=
  match scan.frames with
  | [] => scan
  | frame :: frames =>
    { scan with frames := { frame with children := block :: frame.children } :: frames }

/-- Open a container. -/
def openContainer (kind : Container) (scan : BlockScan) : BlockScan :=
  { scan with frames := ⟨kind, []⟩ :: scan.frames }

/-- The innermost container. -/
def top (scan : BlockScan) : Container := (scan.frames.head?.map (·.kind)).getD .document

/-- Close the innermost container. Blocks that stand after the last part of a list of definitions
move out of it. -/
def close (scan : BlockScan) : BlockScan :=
  match scan.frames with
  | frame :: parent :: frames =>
    let scan := { scan with frames := parent :: frames }
    let children := frame.children.reverse
    match frame.kind with
    | .definitions tight =>
      let parts := children.takeWhile Block.isDefinitionPart
      let others := (children.drop parts.length).map Block.settle
      let parts := if tight then parts.map Block.tightenItem else parts
      let scan := { scan with hollow := false }.add (.container frame.kind parts)
      others.foldl (fun scan block => scan.add block) scan
    | .list _ true =>
      { scan with hollow := false }.add (.container frame.kind (children.map Block.tightenItem))
    | kind => scan.add (.container kind children)
  | _ => scan

/-- Close containers until `n` are left open. -/
def closeTo (n : Nat) (scan : BlockScan) : BlockScan :=
  (List.range (scan.frames.length - n)).foldl (fun scan _ => scan.close) scan

/-- An item that began with a blank line ends at a second one. -/
def finishHollow (scan : BlockScan) : BlockScan :=
  let scan :=
    if scan.hollow && scan.blank then
      match scan.top with
      | .item _ | .definition _ => scan.close
      | _ => scan
    else scan
  { scan with hollow := false }

/-- Mark a list as loose. -/
def loosen : Container → Container
  | .list mark _ => .list mark false
  | .definitions _ => .definitions false
  | kind => kind

/-- After a blank line the innermost container, if it is a list, is loose. -/
def loosenIfBlank (scan : BlockScan) : BlockScan :=
  match scan.frames with
  | frame :: frames =>
    if scan.blank then { scan with frames := { frame with kind := loosen frame.kind } :: frames }
    else scan
  | [] => scan

/-- Before a block that is no item: a list that waits for an item ends, and a blank line in an
item makes its list loose. -/
def finishList (scan : BlockScan) : BlockScan :=
  let scan := scan.finishHollow
  let scan :=
    match scan.top with
    | .list _ _ | .definitions _ => scan.close
    | _ => scan
  if scan.blank then
    match scan.frames with
    | frame :: parent :: frames =>
      let frames := frame :: { parent with kind := loosen parent.kind } :: frames
      { scan with frames, blank := false }
    | _ => { scan with blank := false }
  else scan

/-- Before an item: go on with the list, or start one. -/
def continueList (mark : ItemMark) (scan : BlockScan) : BlockScan :=
  let scan := scan.finishHollow
  let fresh := { scan.finishList.openContainer (.list mark true) with blank := false }
  match scan.frames with
  | frame :: frames =>
    match frame.kind with
    | .list first _ =>
      if first.mark = mark.mark then
        if scan.blank then
          { scan with frames := { frame with kind := loosen frame.kind } :: frames, blank := false }
        else scan
      else fresh
    | _ => fresh
  | [] => fresh

end BlockScan

/-- Take the markers of open containers, outermost first, off a line; the number of containers
that found theirs. -/
def passContainers : List Container → Cursor → Nat × Cursor
  | [], cursor => (0, cursor)
  | kind :: kinds, cursor =>
    let next? : Option Cursor :=
      match kind with
      | .quote _ => (cursor.skip 3).1.quoteMark?
      | .item indent | .definition indent =>
        let (after, missing) := cursor.skip indent
        if missing = 0 || after.atEnd then some after else none
      | _ => some cursor
    match next? with
    | none => (0, cursor)
    | some next =>
      let (n, last) := passContainers kinds next
      (n + 1, last)

/-- Take the markers of the open containers off a line; how many were there. -/
def BlockScan.reach (scan : BlockScan) (cursor : Cursor) : Nat × Cursor :=
  passContainers (scan.frames.reverse.map (·.kind)) cursor

/-- Take the markers of all open containers off a line; whether all were there. -/
def BlockScan.pass (scan : BlockScan) (cursor : Cursor) : Bool × Cursor :=
  let (passed, after) := scan.reach cursor
  (passed = scan.frames.length, after)

end Folio.Markdown
