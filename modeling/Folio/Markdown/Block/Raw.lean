import Folio.Markdown.Block.Frames

/-!
# Raw blocks

Code and HTML keep their lines as they are, up to a line that ends the block.
-/

namespace Folio.Markdown

/-- A raw line after some columns of a tab are left over. -/
def rawText (spare : Nat) (s : List Char) : List Char :=
  List.replicate spare ' ' ++ normalEnding s

/-- The lines of a fenced code block up to its closing fence, and the lines after it. -/
def fencedLines (scan : BlockScan) (mark : Char) (size indent : Nat) :
    List Line → List Char × List Line
  | [] => ([], [])
  | line :: following =>
    let (inside, marked) := scan.pass (Cursor.start line.text)
    if !inside then ([], line :: following)
    else
      let body := (marked.skip indent).1
      let (closing, missing) := body.skip (4 - indent)
      if missing ≠ 0 && closesFence mark size closing.rest then ([], following)
      else
        let raw := rawFrom body.rest line.ending following
        have : raw.2.length ≤ following.length := length_rawFrom_le _ _ _
        let (text, rest) := fencedLines scan mark size indent raw.2
        (rawText body.spare raw.1 ++ text, rest)
termination_by lines => lines.length
decreasing_by exact Nat.lt_succ_of_le this

/-- The lines of an indented code block, the blank lines at its end left out; whether there were
any; and the lines after them. -/
def indentedLines (scan : BlockScan) (spare : Nat) (text ending : List Char)
    (following : List Line) : List Char × Bool × List Line :=
  let raw := rawFrom text ending following
  have _shorter : raw.2.length ≤ following.length := length_rawFrom_le _ _ _
  let own := rawText spare raw.1
  let blank := blankRest text
  let (more, ended, rest) : List Char × Bool × List Line :=
    match _h : raw.2 with
    | [] => ([], blank, [])
    | next :: after =>
      let (inside, marked) := scan.pass (Cursor.start next.text)
      let (body, missing) := marked.skip 4
      if inside && (missing = 0 || body.atEnd) then
        if body.atEnd && next.ending.isEmpty && after.isEmpty then ([], blank, [])
        else indentedLines scan body.spare body.rest next.ending after
      else ([], blank, next :: after)
  if more.isEmpty && blank then ([], ended, rest) else (own ++ more, ended, rest)
termination_by following.length
decreasing_by
  rw [_h] at _shorter
  simp only [List.length_cons] at _shorter
  omega

/-- The lines of raw HTML up to the one that holds the end mark or, without an end mark, up to a
blank line; and the lines after them. -/
def htmlLines (scan : BlockScan) (close : Option String) (columns : Nat) (text ending : List Char)
    (following : List Line) : List (Nat × List Char) × List Line :=
  let raw := rawFrom text ending following
  have _shorter : raw.2.length ≤ following.length := length_rawFrom_le _ _ _
  let own := (columns, normalEnding raw.1)
  match _h : raw.2 with
  | [] => ([own], [])
  | next :: after =>
    let (inside, marked) := scan.pass (Cursor.start next.text)
    let done :=
      match close with
      | some close => Text.occursIn close.toList raw.1
      | none => blankRest marked.rest
    if !inside || done then ([own], next :: after)
    else if marked.atEnd && next.ending.isEmpty then ([own], [])
    else
      let (more, rest) := htmlLines scan close marked.spare marked.rest next.ending after
      (own :: more, rest)
termination_by following.length
decreasing_by
  rw [_h] at _shorter
  simp only [List.length_cons] at _shorter
  omega

/-- The lines after a metadata block. -/
def metadataLines (scan : BlockScan) (mark : Char) : List Line → List Line
  | [] => []
  | line :: following =>
    let (inside, _) := scan.pass (Cursor.start line.text)
    if !inside then line :: following
    else if closesMetadata mark line.text then following
    else metadataLines scan mark following

end Folio.Markdown
