import Folio.Markdown.Block.Paragraph

/-!
# Definitions of links and footnotes

A definition may go on over lines as a paragraph does. Where it ends, the paragraph goes on, and may
start with another definition.
-/

namespace Folio.Markdown

/-- White space with at most one line end in front of more text; `none` if no text follows. -/
def definitionSpace? (s : Source) : Option (Source × Bool) :=
  let s := s.skipBlanks
  match s.lineEnd? with
  | some next =>
    let next := next.skipContainers.skipBlanks
    if next.isEmpty || (Source.lineEnd? next).isSome then none else some (next, true)
  | none => if s.isEmpty then none else some (s, false)

/-- Whether nothing but blanks is left in a line of source. -/
def restOfLineBlank (s : Source) : Bool :=
  let s := s.skipBlanks
  s.isEmpty || s.lineEnd?.isSome

/-- A definition of a link's target: the label, the target, and the source after it. -/
def linkDefinition? (s : Source) : Option (List Char × Target × Source) := do
  let g :: rest := s | none
  if g.char ≠ '[' then none
  let (label, rest) ← label? false rest
  let colon :: rest := rest | none
  if colon.char ≠ ':' then none
  let (rest, _) ← definitionSpace? rest
  let (destination, after) ← destination? rest
  if after.length = rest.length then none
  let destination := unescape false destination
  let bare := (label, (⟨destination, []⟩ : Target), after)
  match definitionSpace? after with
  | none => some bare
  | some (next, newLine) =>
    if next.length = after.length then none
    else
      match definitionTitle? next with
      | some (title, last) =>
        if restOfLineBlank last then some (label, ⟨destination, unescape false title⟩, last)
        else if newLine then some bare
        else none
      | none => if newLine then some bare else none

/-- The number of line ends in a source. -/
def lineEnds : Source → Nat
  | [] => 0
  | g :: rest =>
    if g.char = '\n' then lineEnds rest + 1
    else if g.char = '\r' && rest.head?.map (·.char) ≠ some '\n' then lineEnds rest + 1
    else lineEnds rest

/-- A footnote's definition: its label, the rest of the line after the colon, and the number of
lines passed. -/
def footnoteDefinition? (scan : BlockScan) (text ending : List Char) (following : List Line) :
    Option (List Char × List Char × Nat) :=
  match text with
  | '[' :: '^' :: body =>
    let source := continuation scan body ending following
    match label? false source with
    | some (label, g :: after) =>
      if g.char = ':' then
        let used := source.take (source.length - after.length)
        some (label, Source.chars (after.takeWhile fun h => h.char ≠ '\n' && h.char ≠ '\r'),
          lineEnds used)
      else none
    | _ => none
  | _ => none

/-- The source of the line after a definition, from its text on. -/
def nextText (s : Source) : Source :=
  (s.skipBlanks.lineEnd?.getD []).skipContainers.dropWhile fun g => g.char = ' ' || g.char = '\t'

/-- Read definitions of links and the paragraph behind them, from a line's text on, whose source is
given as far as a paragraph could go on. The fuel bounds the definitions. -/
def readDefinitions (scan : BlockScan) (marks text ending : List Char) (following : List Line)
    (source : Source) : Nat → BlockScan × List Line
  | 0 => readParagraph scan none marks text ending following
  | fuel + 1 =>
    match linkDefinition? source with
    | none => readParagraph scan none marks text ending following
    | some (label, target, after) =>
      let scan := { scan with references := scan.references.define label target }
      let used := source.take (source.length - after.length)
      match following.drop (lineEnds used) with
      | [] => (scan.finishList, [])
      | next :: rest =>
        let (passed, marked) := scan.reach (Cursor.start next.text)
        let (indented, missing) := marked.skip 4
        let body := indented.skipAll
        if body.atEnd ||
            (missing ≠ 0 &&
              interrupts ⟨scan, passed, false, false⟩ indented.rest next.ending rest) then
          (scan.finishList, next :: rest)
        else
          readDefinitions scan (next.text.take body.passed) body.rest next.ending rest
            (nextText after) fuel

/-- Read definitions of links and the paragraph behind them, from a line's text on. -/
def readText (scan : BlockScan) (marks text ending : List Char) (following : List Line) :
    BlockScan × List Line :=
  readDefinitions scan marks text ending following (continuation scan text ending following)
    (following.length + 1)

end Folio.Markdown
