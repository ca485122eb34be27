import Folio.Text.Percent
import Folio.Markdown.Marker
import Folio.Markdown.Entity

/-!
# Source text across lines

A construct inside a paragraph may continue on the next line, where the containers' markers come
first. Source text keeps for each character whether it is text, a container's marker or
indentation, so that each construct skips what its rule tells it to skip. The readers of links,
tags and autolinks are here; each gives back the source after what it read.
-/

namespace Folio.Markdown

/-- What a character of the source belongs to. -/
inductive Role where
  | text
  | container
  | indent
  deriving Repr, DecidableEq, Inhabited

/-- A character of the source with its role. -/
structure Glyph where
  char : Char
  role : Role
  deriving Repr, DecidableEq, Inhabited

/-- Source text. -/
abbrev Source := List Glyph

namespace Source

/-- Characters that are all text. -/
def ofText (s : List Char) : Source := s.map (⟨·, .text⟩)

/-- Characters of one role. -/
def ofRole (role : Role) (s : List Char) : Source := s.map (⟨·, role⟩)

/-- The characters of a source, whatever their roles. -/
def chars (s : Source) : List Char := s.map (·.char)

/-- The characters without the containers' markers. -/
def withoutContainers (s : Source) : List Char :=
  chars (s.filter (·.role ≠ .container))

/-- Skip the containers' markers at the start of a line. -/
def skipContainers (s : Source) : Source := s.dropWhile (·.role = .container)

/-- The source after a line end, if it starts with one. -/
def lineEnd? : Source → Option Source
  | [] => none
  | g :: rest =>
    if g.char = '\n' then some rest
    else if g.char = '\r' then
      match rest with
      | h :: more => if h.char = '\n' then some more else some rest
      | [] => some []
    else none

/-- Skip blanks within a line. -/
def skipBlanks (s : Source) : Source := s.dropWhile (isLineBlank ·.char)

/-- Skip blanks, at most one line end, and blanks. -/
def skipGap (s : Source) : Source :=
  let s := s.skipBlanks
  match s.lineEnd? with
  | some next => next.skipContainers.skipBlanks
  | none => s

end Source

/-- The state of a label's reader. -/
structure LabelScan where
  /-- The label so far, in reverse, with runs of white space as one space. -/
  label : List Char
  /-- The measure that is limited. -/
  size : Nat
  /-- The width of the white space just passed: more than one if it is no single space. -/
  gap : Nat
  /-- The characters of that white space. -/
  gapChars : Nat
  /-- Line ends in that white space. -/
  lineEnds : Nat
  /-- Whether anything but white space came. -/
  filled : Bool

namespace LabelScan

/-- White space that is passed becomes one space. -/
def flush (scan : LabelScan) : LabelScan :=
  if scan.gap = 0 then scan
  else
    { scan with
      label := ' ' :: scan.label,
      size := scan.size + (if 1 < scan.gap then scan.gapChars else 1),
      gap := 0, gapChars := 0, lineEnds := 0 }

end LabelScan

/-- Read a label up to its closing bracket: no bracket inside, at most one line end in a row, not
only white space. A backslash protects a mark after it. In a table one backslash in front of a pipe
is dropped. -/
def readLabel (inTable : Bool) (scan : LabelScan) : Source → Option (List Char × Source)
  | [] => none
  | g :: rest =>
    if g.char = '\r' && rest.head?.map (·.char) = some '\n' then readLabel inTable scan rest
    else if g.char = '\n' || g.char = '\r' then
      if 1 ≤ scan.lineEnds then none
      else
        readLabel inTable
          { scan with gap := scan.gap + 2, gapChars := scan.gapChars + 1, lineEnds := 1 } rest
    else if g.role = .container then
      readLabel inTable { scan with gapChars := scan.gapChars + 1 } rest
    else if isLineBlank g.char then
      readLabel inTable
        { scan with
          gap := scan.gap + (if g.char = ' ' then 1 else 2), gapChars := scan.gapChars + 1 } rest
    else
      let scan := scan.flush
      if 1000 ≤ scan.size then none
      else if g.char = '[' then none
      else if g.char = ']' then
        if scan.filled then
          some ((Text.dropEndWhile (· = ' ') (scan.label.reverse.dropWhile (· = ' '))), rest)
        else none
      else
        let width := if g.char.toNat < 128 then 0 else g.char.utf8Size
        let plain : LabelScan :=
          { scan with label := g.char :: scan.label, size := scan.size + width, filled := true }
        if g.char = '|' && inTable && scan.label.head? = some '\\' then
          readLabel inTable { plain with label := '|' :: scan.label.tail } rest
        else if g.char = '\\' then
          match rest with
          | [] => none
          | h :: more =>
            if h.char = '|' && inTable then
              readLabel inTable
                { plain with label := '|' :: scan.label, size := scan.size + 1 } more
            else if Text.isAsciiPunctuation h.char then
              readLabel inTable
                { plain with label := h.char :: '\\' :: scan.label, size := scan.size + 2 } more
            else readLabel inTable plain (h :: more)
        else readLabel inTable plain rest

/-- The label after an opening bracket. -/
def label? (inTable : Bool) (s : Source) : Option (List Char × Source) :=
  readLabel inTable ⟨[], 0, 0, 0, 0, false⟩ s

/-- Undo backslash escapes and character references, and drop carriage returns. In a table a doubled
backslash and a pipe after it are dropped. -/
def unescape (inTable : Bool) : List Char → List Char
  | [] => []
  | '\r' :: rest => unescape inTable rest
  | '\\' :: '\\' :: '|' :: rest =>
    if inTable then unescape inTable rest else '\\' :: unescape inTable ('|' :: rest)
  | '\\' :: c :: rest =>
    if Text.isAsciiPunctuation c then c :: unescape inTable rest
    else '\\' :: unescape inTable (c :: rest)
  | '&' :: rest =>
    match entity? ('&' :: rest) with
    | some (value, after) =>
      if after.length < rest.length then value ++ unescape inTable after
      else '&' :: unescape inTable rest
    | none => '&' :: unescape inTable rest
  | c :: rest => c :: unescape inTable rest
termination_by s => s.length

/-- The rest of a destination in angle brackets. -/
def pointyDestination? (passed : List Char) : Source → Option (List Char × Source)
  | [] => none
  | g :: rest =>
    if g.char = '\n' || g.char = '\r' || g.char = '<' then none
    else if g.char = '>' then some (passed.reverse, rest)
    else if g.char = '\\' then
      match rest with
      | h :: more =>
        if Text.isAsciiPunctuation h.char then
          pointyDestination? (h.char :: '\\' :: passed) more
        else pointyDestination? ('\\' :: passed) (h :: more)
      | [] => none
    else pointyDestination? (g.char :: passed) rest

/-- The greatest depth of parentheses in a destination. -/
def maxParentheses : Nat := 32

/-- The rest of a destination without angle brackets, with the depth of open parentheses. -/
def bareDestination? (passed : List Char) (depth : Nat) : Source → Option (List Char × Source)
  | [] => if depth = 0 then some (passed.reverse, []) else none
  | g :: rest =>
    if g.char.toNat ≤ 0x20 then
      if depth = 0 then some (passed.reverse, g :: rest) else none
    else if g.char = '(' then
      if maxParentheses < depth then none
      else bareDestination? ('(' :: passed) (depth + 1) rest
    else if g.char = ')' then
      if depth = 0 then some (passed.reverse, g :: rest)
      else bareDestination? (')' :: passed) (depth - 1) rest
    else if g.char = '\\' then
      match rest with
      | h :: more =>
        if Text.isAsciiPunctuation h.char then
          bareDestination? (h.char :: '\\' :: passed) depth more
        else bareDestination? ('\\' :: passed) depth (h :: more)
      | [] => if depth = 0 then some (('\\' :: passed).reverse, []) else none
    else bareDestination? (g.char :: passed) depth rest

/-- A link's destination, before escapes are undone. -/
def destination? : Source → Option (List Char × Source)
  | [] => some ([], [])
  | g :: rest =>
    if g.char = '<' then pointyDestination? [] rest else bareDestination? [] 0 (g :: rest)

/-- The mark that closes a title, from the one that opens it. -/
def titleClose? (c : Char) : Option Char :=
  if c = '"' || c = '\'' then some c else if c = '(' then some ')' else none

/-- The rest of an inline link's title. A line end drops what the next line starts with; an
opening mark inside ends the attempt. -/
def readTitle (start close : Char) (passed : List Char) : Source → Option (List Char × Source)
  | [] => none
  | g :: rest =>
    if g.role ≠ .text then readTitle start close passed rest
    else if g.char = close then some (passed.reverse, rest)
    else if g.char = start then none
    else if g.char = '\\' then
      match rest with
      | h :: more =>
        if Text.isAsciiPunctuation h.char then
          readTitle start close (h.char :: '\\' :: passed) more
        else readTitle start close ('\\' :: passed) (h :: more)
      | [] => none
    else if g.char = '\r' then
      match rest with
      | h :: more =>
        if h.char = '\n' then readTitle start close ('\n' :: passed) more
        else readTitle start close ('\n' :: passed) (h :: more)
      | [] => none
    else readTitle start close (g.char :: passed) rest

/-- The title of an inline link, before escapes are undone. -/
def title? : Source → Option (List Char × Source)
  | [] => none
  | g :: rest =>
    match titleClose? g.char with
    | none => none
    | some close => readTitle g.char close [] rest

/-- The rest of a definition's title. Markers and blanks at the start of a line are dropped; `fresh`
says that one starts. No parenthesis stands within parentheses. -/
def readDefinitionTitle (close : Char) (fresh : Bool) (passed : List Char) :
    Source → Option (List Char × Source)
  | [] => none
  | g :: rest =>
    if g.role = .container || (fresh && isLineBlank g.char) then
      readDefinitionTitle close fresh passed rest
    else if g.char = '\\' then
      match rest with
      | h :: more => readDefinitionTitle close false (h.char :: '\\' :: passed) more
      | [] => none
    else if g.char = close then some (passed.reverse, rest)
    else if g.char = '(' && close = ')' then none
    else
      readDefinitionTitle close (g.char = '\n' || g.char = '\r') (g.char :: passed) rest

/-- The title of a link definition, before escapes are undone. -/
def definitionTitle? : Source → Option (List Char × Source)
  | [] => none
  | g :: rest =>
    match titleClose? g.char with
    | none => none
    | some close => readDefinitionTitle close false [] rest

/-- Where a link leads, and its title. -/
structure Target where
  destination : List Char
  title : List Char
  deriving Repr, DecidableEq, Inhabited

/-- The bytes of a target. -/
def Target.size (target : Target) : Nat :=
  (String.ofList target.destination).utf8ByteSize + (String.ofList target.title).utf8ByteSize

/-- The parenthesised target of an inline link. -/
def inlineTarget? (inTable : Bool) (s : Source) : Option (Target × Source) := do
  let g :: rest := s | none
  if g.char ≠ '(' then none
  let (destination, rest) ← destination? (Source.skipGap rest)
  let rest := rest.skipGap
  let (title, rest) :=
    match title? rest with
    | some (title, rest) => (title, rest.skipGap)
    | none => ([], rest)
  let g :: rest := rest | none
  if g.char ≠ ')' then none
  some (⟨unescape inTable destination, unescape inTable title⟩, rest)

/-- Whether a text is an address with a scheme of 2 to 32 characters. -/
def isUri (s : List Char) : Bool :=
  match s with
  | [] => false
  | c :: rest =>
    let scheme := rest.takeWhile fun d => d.isAlphanum || d = '.' || d = '-' || d = '+'
    c.isAlpha && 1 ≤ scheme.length && scheme.length ≤ 31 &&
      (rest.drop scheme.length).head? = some ':'

/-- Whether a text is one label of a host's name. -/
def isHostLabel (label : String) : Bool :=
  let s := label.toList
  !s.isEmpty && s.length ≤ 63 && s.head? ≠ some '-' && s.getLast? ≠ some '-' &&
    s.all fun c => c.isAlphanum || c = '-'

/-- Whether a text is a mail address. -/
def isMail (s : List Char) : Bool :=
  let user := s.takeWhile fun c => c.isAlphanum || ".!#$%&'*+/=?^_`\x7b|\x7d~-".toList.contains c
  !user.isEmpty &&
    match s.drop user.length with
    | '@' :: host => ((String.ofList host).splitOn ".").all isHostLabel
    | _ => false

/-- An address in angle brackets, from the source after `<`: whether it is a mail address, the
address, and the number of characters up to and with `>`. -/
def autolink? (s : Source) : Option (Bool × List Char × Nat) :=
  let inside := s.takeWhile fun g => !(g.char = '>' || g.char = '<' || g.char.toNat ≤ 0x20)
  let address := Source.chars inside
  if (s.drop inside.length).head?.map (·.char) ≠ some '>' then none
  else if isUri address then some (false, address, address.length + 1)
  else if isMail address then some (true, address, address.length + 1)
  else none

/-- The state of a tag's reader; each reader gives back the source after what it read. -/
def skipTagSpace (multiline : Bool) : Source → Option Source
  | [] => none
  | g :: rest =>
    if g.char = '\n' || g.char = '\r' || g.role = .container then
      if multiline then skipTagSpace multiline rest else none
    else if isLineBlank g.char then skipTagSpace multiline rest
    else some (g :: rest)

/-- The rest of a quoted attribute value. -/
def quotedValue? (multiline : Bool) (quote : Char) : Source → Option Source
  | [] => none
  | g :: rest =>
    if g.role = .container then quotedValue? multiline quote rest
    else if g.char = quote then some rest
    else if (g.char = '\n' || g.char = '\r') && !multiline then none
    else quotedValue? multiline quote rest

/-- An attribute's value. -/
def attributeValue? (multiline : Bool) : Source → Option Source
  | [] => none
  | g :: rest =>
    let stops (c : Char) : Bool := " \t\n\r\"'=<>`".toList.contains c
    if g.char = '"' || g.char = '\'' then quotedValue? multiline g.char rest
    else if " =><`\n\r".toList.contains g.char then none
    else some ((g :: rest).dropWhile fun h => !stops h.char)

/-- An attribute: a name, and a value after `=`, which may have white space around it. -/
def attribute? (multiline : Bool) : Source → Option Source
  | [] => none
  | g :: rest =>
    let inName (c : Char) : Bool := c.isAlphanum || c = '_' || c = '.' || c = ':' || c = '-'
    if g.char.isAlpha || g.char = '_' || g.char = ':' then
      let named := rest.dropWhile (inName ·.char)
      match skipTagSpace multiline named with
      | none => none
      | some (h :: more) =>
        if h.char = '=' then (skipTagSpace multiline more).bind (attributeValue? multiline)
        else some named
      | some [] => some named
    else none

/-- The attributes of an opening tag, each after white space, up to `/` or `>`. -/
def attributes? (multiline : Bool) (fuel : Nat) (s : Source) : Option Source :=
  match fuel with
  | 0 => none
  | fuel + 1 =>
    match skipTagSpace multiline s with
    | none => none
    | some [] => none
    | some (g :: rest) =>
      if g.char = '/' || g.char = '>' then some (g :: rest)
      else if rest.length + 1 = s.length then none
      else (attribute? multiline (g :: rest)).bind (attributes? multiline fuel)

/-- An opening or closing tag, from the source after `<`. -/
def tag? (multiline : Bool) (s : Source) : Option Source :=
  let (closing, body) :=
    match s with
    | g :: rest => if g.char = '/' then (true, rest) else (false, s)
    | [] => (false, [])
  match body with
  | [] => none
  | g :: _ =>
    if g.char.isAlpha then
      let named := body.dropWhile fun h => h.char.isAlphanum || h.char = '-'
      let inside := if closing then some named else attributes? multiline (named.length + 1) named
      match inside.map Source.skipBlanks with
      | none => none
      | some inside =>
        let inside :=
          match inside with
          | h :: more => if !closing && h.char = '/' then more else inside
          | [] => []
        match inside with
        | h :: after => if h.char = '>' then some after else none
        | [] => none
    else none

/-- The source after the first occurrence of a text. -/
def afterFirst? (mark : List Char) : Source → Option Source
  | [] => none
  | g :: rest =>
    match Text.dropStart? mark (Source.chars ((g :: rest).take mark.length)) with
    | some _ => some ((g :: rest).drop mark.length)
    | none => afterFirst? mark rest

/-- A comment, declaration or character data section, from the source after `<!`. -/
def declaration? (s : Source) : Option Source :=
  if Text.startsWith "--".toList s.chars then
    let body := s.drop 2
    if Text.startsWith ">".toList (Source.chars body) then some (body.drop 1)
    else if Text.startsWith "->".toList (Source.chars body) then some (body.drop 2)
    else afterFirst? "-->".toList body
  else if Text.startsWith "[CDATA[".toList s.chars then
    let body := (s.drop 7).dropWhile (·.char ≠ ']')
    match body, body.dropWhile (·.char = ']') with
    | _ :: _, h :: after => if h.char = '>' then some after else none
    | _, _ => none
  else
    match s with
    | g :: _ => if g.char.isAlpha then afterFirst? ">".toList s else none
    | [] => none

/-- Inline HTML, from the source after `<`: what it is written as, and the source after it. Tags
drop the containers' markers of later lines; comments and the like keep them. -/
def inlineHtml? (s : Source) : Option (List Char × Source) :=
  let whole (after : Source) : List Char := '<' :: Source.chars (s.take (s.length - after.length))
  match s with
  | g :: rest =>
    if g.char = '!' then (declaration? rest).map fun after => (whole after, after)
    else if g.char = '?' then (afterFirst? "?>".toList rest).map fun after => (whole after, after)
    else
      (tag? true s).map fun after =>
        ('<' :: Source.withoutContainers (s.take (s.length - after.length)), after)
  | [] => none

end Folio.Markdown
