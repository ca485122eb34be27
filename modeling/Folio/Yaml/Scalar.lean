import Folio.Yaml.Cursor
import Folio.Text.CodePoints

/-!
# Scalars

The text of quoted, plain and block scalars. Within quoted and plain scalars lines are folded: one
line end counts as a space, more of them as one line feed less than there are, and the white space
around them does not count. An escaped line end joins its lines.
-/

namespace Folio.Yaml

open Folio.Text (hexDigit? hexNumber)

/-- White space between two parts of a scalar. -/
inductive Gap where
  /-- Within a line. -/
  | within (blanks : List Char)
  /-- Over line ends: whether the first of them was not escaped, and how many follow it. -/
  | across (plain : Bool) (more : Nat)
  deriving Repr, DecidableEq

namespace Gap

/-- Nothing between two parts. -/
def empty : Gap := .within []

/-- What a gap adds to the scalar. -/
def text : Gap → List Char
  | .within blanks => blanks
  | .across true 0 => [' ']
  | .across _ more => List.replicate more '\n'

/-- The gap with a blank more. -/
def addBlank (blank : Char) : Gap → Gap
  | .within blanks => .within (blanks ++ [blank])
  | gap => gap

/-- The gap with a line end more. -/
def addBreak : Gap → Gap
  | .within _ => .across true 0
  | .across plain more => .across plain (more + 1)

end Gap

/-- A part of a quoted scalar. -/
inductive Mark where
  /-- A character, written with `width` characters. -/
  | char (c : Char) (width : Nat)
  /-- White space within a line. -/
  | blank (c : Char)
  /-- A line end. -/
  | lineEnd (width : Nat)
  /-- An escaped line end. -/
  | joint (width : Nat)
  deriving Repr, DecidableEq

/-- The character that stands for itself after a backslash, or is named there by a letter. -/
def namedEscape? (c : Char) : Option Char :=
  match c with
  | '0' => some '\x00'
  | 'a' => some '\x07'
  | 'b' => some '\x08'
  | 't' => some '\t'
  | '\t' => some '\t'
  | 'n' => some '\n'
  | 'v' => some '\x0b'
  | 'f' => some '\x0c'
  | 'r' => some '\r'
  | 'e' => some '\x1b'
  | ' ' => some ' '
  | '"' => some '"'
  | '/' => some '/'
  | '\\' => some '\\'
  | 'N' => some '\u0085'
  | '_' => some '\u00a0'
  | 'L' => some '\u2028'
  | 'P' => some '\u2029'
  | _ => none

/-- How many hexadecimal digits follow a letter after a backslash. -/
def escapeDigits (c : Char) : Nat :=
  match c with
  | 'x' => 2
  | 'u' => 4
  | 'U' => 8
  | _ => 0

/-- The character with a code point, if there is one. -/
def scalarValue? (n : Nat) : Option Char :=
  if h : n.isValidChar then some (Char.ofNatAux n h) else none

/-- The character that an escape stands for, and how many characters follow its backslash. -/
def escape? : List Char → Option (Char × Nat)
  | [] => none
  | c :: rest =>
    match namedEscape? c with
    | some d => some (d, 1)
    | none =>
      let digits := rest.take (escapeDigits c)
      let complete := digits.length = escapeDigits c && digits.all fun d => (hexDigit? d).isSome
      if digits.isEmpty || !complete then none
      else (scalarValue? (hexNumber digits)).map fun d => (d, digits.length + 1)

/-- The first part of a quoted scalar that goes on with a character and a rest, and how many
characters of the rest belong to it. -/
def mark? (single : Bool) (c : Char) (rest : List Char) : Option (Mark × Nat) :=
  if isGap c then some (.blank c, 0)
  else if c = '\r' && rest.head? = some '\n' then some (.lineEnd 2, 1)
  else if isBreak c then some (.lineEnd 1, 0)
  else if single && c = '\'' then some (.char '\'' 2, 1)
  else if !single && c = '\\' then
    match rest with
    | '\r' :: '\n' :: _ => some (.joint 3, 2)
    | '\n' :: _ => some (.joint 2, 1)
    | '\r' :: _ => some (.joint 2, 1)
    | _ => (escape? rest).map fun (d, width) => (.char d (width + 1), width)
  else some (.char c 1, 0)

/-- The parts of a quoted scalar up to its closing quote, and the text after the quote. -/
def marks? (single : Bool) : List Char → Option (List Mark × List Char)
  | [] => none
  | c :: rest =>
    let closes := if single then c = '\'' && rest.head? ≠ some '\'' else c = '"'
    if closes then some ([], rest)
    else
      match mark? single c rest with
      | none => none
      | some (mark, width) =>
        (marks? single (rest.drop width)).map fun (marks, after) => (mark :: marks, after)
  termination_by text => text.length
  decreasing_by
    simp only [List.length_drop, List.length_cons]
    omega

/-- A quoted scalar that is being read. -/
structure Quoted where
  /-- The text so far, last character first. -/
  text : List Char
  gap : Gap
  column : Nat
  lines : Nat
  width : Nat

namespace Quoted

/-- Whether the marks start with three like characters and white space. -/
def boundary : List Mark → Bool
  | .char x 1 :: .char y 1 :: .char z 1 :: rest =>
    (x = '-' || x = '.') && x = y && y = z &&
      (match rest with | .blank _ :: _ => true | .lineEnd _ :: _ => true | _ => false)
  | _ => false

/-- Whether a line of the scalar may go on at a column. The marks are what follows. -/
def mayGoOn (indent : Int) (q : Quoted) (marks : List Mark) : Bool :=
  match q.gap with
  | .within _ => true
  | .across _ _ => indent ≤ q.column && !(q.column = 0 && boundary marks)

/-- The scalar with its gap added to the text. -/
def flush (q : Quoted) : Quoted := { q with text := q.gap.text.reverse ++ q.text, gap := .empty }

/-- Read the marks of a scalar. Lines must be indented, and not with tabs. -/
def read (indent : Int) : Quoted → List Mark → Option Quoted
  | q, [] => if q.mayGoOn indent [] then some q.flush else none
  | q, mark :: marks =>
    match mark with
    | .blank c =>
      let inMargin := match q.gap with | .within _ => false | .across _ _ => q.column < indent
      if c = '\t' && inMargin then none
      else
        read indent
          { q with gap := q.gap.addBlank c, column := q.column + 1, width := q.width + 1 } marks
    | .lineEnd width =>
      read indent
        { q with
          gap := q.gap.addBreak, column := 0, lines := q.lines + 1, width := q.width + width }
        marks
    | .joint width =>
      if q.mayGoOn indent (mark :: marks) then
        read indent
          { q.flush with
            gap := .across false 0, column := 0, lines := q.lines + 1, width := q.width + width }
          marks
      else none
    | .char c width =>
      if q.mayGoOn indent (mark :: marks) then
        let q := q.flush
        read indent
          { q with text := c :: q.text, column := q.column + width, width := q.width + width } marks
      else none

end Quoted

/-- The text of the quoted scalar at a cursor, and the place after it. -/
def quoted? (single : Bool) (indent : Int) (c : Cursor) : Option (List Char × Cursor) := do
  let (marks, after) ← marks? single (c.rest.drop 1)
  let q ← Quoted.read indent ⟨[], .empty, c.column + 1, 0, 1⟩ marks
  return (q.text.reverse, ⟨after, c.offset + q.width + 1, c.line + q.lines, q.column + 1, false⟩)

/-- Whether a character belongs to a plain scalar; the rest follows it. -/
def isPlain (flow : Bool) (c : Char) (rest : List Char) : Bool :=
  if isSpace c then false
  else if c = ':' then
    !(spaceNext rest || (flow && match rest with | d :: _ => isFlowMark d | [] => false))
  else !(flow && isFlowMark c)

/-- The characters of a plain scalar up to white space or a mark. -/
def plainRun (flow : Bool) : List Char → List Char
  | [] => []
  | c :: rest => if isPlain flow c rest then c :: plainRun flow rest else []

/-- Pass white space between the parts of a plain scalar. A tab in the indentation is good only on
a line without other text. The fuel bounds the characters passed. -/
def plainGap? (indent : Int) : Nat → Gap → Cursor → Option (Gap × Cursor)
  | 0, gap, c => some (gap, c)
  | fuel + 1, gap, c =>
    match c.rest with
    | [] => some (gap, c)
    | d :: _ =>
      if isBreak d then
        let gap :=
          match gap with
          | .across _ more => if c.fresh then .across true (more + 1) else gap
          | .within _ => if c.fresh then .across false 1 else .across true 0
        plainGap? indent fuel gap c.passBreak
      else if isGap d then
        if !c.fresh then plainGap? indent fuel (gap.addBlank d) (c.pass 1)
        else if d = '\t' && c.column < indent then
          match c.margin? true with
          | none => none
          | some margin =>
            if lineEnds margin.cursor.rest then plainGap? indent fuel gap margin.cursor else none
        else plainGap? indent fuel gap (c.pass 1)
      else some (gap, c)

/-- The text of the plain scalar at a cursor, and the place after it and the white space that
follows it. The fuel bounds the characters passed. -/
def plainParts? (flow : Bool) (indent : Int) :
    Nat → List Char → Gap → Cursor → Option (List Char × Cursor)
  | 0, text, _, c => some (text, c)
  | fuel + 1, text, gap, c =>
    if c.atBoundary || c.rest.head? = some '#' then some (text, c)
    else
      let loneDash := match c.rest with | '-' :: d :: _ => flow && isFlowMark d | _ => false
      if loneDash then none
      else
        let run := plainRun flow c.rest
        let (text, gap, c) :=
          if run.isEmpty then (text, gap, c)
          else (text ++ gap.text ++ run, Gap.empty, c.passSolid run.length)
        match c.rest with
        | [] => some (text, c)
        | d :: _ =>
          if !isSpace d then some (text, c)
          else
            match plainGap? indent (c.rest.length + 1) gap c with
            | none => none
            | some (gap, next) =>
              if !flow && next.column < indent then some (text, next)
              else plainParts? flow indent fuel text gap next

/-- The plain scalar at a cursor within a flow collection or not, and the place after it. -/
def plain? (flow : Bool) (indent : Int) (c : Cursor) : Option (List Char × Cursor) :=
  if flow && c.column < indent then none
  else do
    let (text, after) ← plainParts? flow indent (c.rest.length + 1) [] .empty c
    if text.isEmpty then none else some (text, after)

/-- What becomes of the line ends at the end of a block scalar. -/
inductive Chomping where
  | strip
  | clip
  | keep
  deriving Repr, DecidableEq

/-- The chomping that a character asks for. -/
def Chomping.ofChar? (c : Char) : Option Chomping :=
  if c = '+' then some .keep else if c = '-' then some .strip else none

/-- What stands behind the mark of a block scalar: the chomping, the indentation that is asked for
(zero for none), and how many characters both take. Zero as a digit is refused. -/
def blockHeader? : List Char → Option (Chomping × Nat × Nat)
  | [] => some (.clip, 0, 0)
  | c :: rest =>
    let digit (d : Char) : Option Nat := if d = '0' then none else some (d.toNat - 48)
    match Chomping.ofChar? c with
    | some chomping =>
      match rest with
      | d :: _ =>
        if d.isDigit then (digit d).map fun n => (chomping, n, 2) else some (chomping, 0, 1)
      | [] => some (chomping, 0, 1)
    | none =>
      if c.isDigit then do
        let n ← digit c
        match rest.head?.bind Chomping.ofChar? with
        | some chomping => return (chomping, n, 2)
        | none => return (.clip, n, 1)
      else some (.clip, 0, 0)

/-- Pass indentation up to a column, and empty lines; the line ends are counted. Without a column
all spaces are passed, and the widest column is found. The fuel bounds the lines. -/
def passIndent (limit : Option Nat) : Nat → Nat → Nat → Cursor → Nat × Nat × Cursor
  | 0, breaks, widest, c => (breaks, widest, c)
  | fuel + 1, breaks, widest, c =>
    let spaces := (c.rest.takeWhile (· = ' ')).length
    let c := c.pass (match limit with | some n => min spaces (n - c.column) | none => spaces)
    let widest := max widest c.column
    match c.rest with
    | d :: _ =>
      if isBreak d then passIndent limit fuel (breaks + 1) widest c.passBreak
      else (breaks, widest, c)
    | [] => (breaks, widest, c)

/-- A block scalar that is being read: the text so far, whether a line end waits, how many line ends
of empty lines wait, and whether the last line starts with white space. -/
structure BlockText where
  text : List Char
  pending : Bool
  breaks : Nat
  blankLine : Bool

/-- Read the lines of a block scalar that are indented by `indent`. The fuel bounds the lines. -/
def blockLines (literal : Bool) (indent : Nat) : Nat → BlockText → Cursor → BlockText × Cursor
  | 0, b, c => (b, c)
  | fuel + 1, b, c =>
    match c.rest with
    | [] => (b, c)
    | d :: _ =>
      if c.column ≠ indent || (indent = 0 && c.atMarker '.') then (b, c)
      else
        let blank := isGap d
        let joint :=
          if !literal && b.pending && !b.blankLine && !blank then
            if b.breaks = 0 then [' '] else List.replicate b.breaks '\n'
          else List.replicate ((if b.pending then 1 else 0) + b.breaks) '\n'
        let line := c.rest.takeWhile fun e => !isBreak e
        let text := b.text ++ joint ++ line
        let c := c.passSolid line.length
        if c.rest.isEmpty then (⟨text, false, 0, blank⟩, c)
        else
          let (breaks, _, c) := passIndent (some indent) (c.rest.length + 1) 0 0 c.passBreak
          blockLines literal indent fuel ⟨text, true, breaks, blank⟩ c

/-- The text of the block scalar at a cursor whose surroundings are indented by `outer`, and the
place after it. -/
def block? (literal : Bool) (outer : Int) (c : Cursor) : Option (List Char × Cursor) := do
  let (chomping, increment, width) ← blockHeader? (c.rest.drop 1)
  let margin ← (c.passSolid (1 + width)).margin? true
  let head := margin.cursor
  if !lineEnds head.rest then none
  let broken := !head.rest.isEmpty
  let body := if broken then head.passBreak else head
  if body.rest.head? = some '\t' then none
  let asked : Nat := if increment = 0 then 0 else (max outer 0 + increment).toNat
  let fuel := body.rest.length + 1
  let (breaks, widest, start) :=
    passIndent (if asked = 0 then none else some asked) fuel 0 0 body
  let indent :=
    if asked = 0 then max widest (outer + 1).toNat else asked
  if start.rest.isEmpty then
    let tail : List Char :=
      match chomping with
      | .strip => []
      | .clip => if broken then ['\n'] else []
      | .keep => if !broken then [] else List.replicate (max breaks 1) '\n'
    return (tail, start)
  else if start.column < indent && outer < start.column then none
  else
    let (b, after) := blockLines literal indent fuel ⟨[], false, breaks, false⟩ start
    let clipped :=
      if chomping = .strip then b.text
      else
        b.text ++ (if b.pending then ['\n'] else []) ++
          (if after.rest.isEmpty && max indent 1 ≤ after.column then ['\n'] else [])
    let text := if chomping = .keep then clipped ++ List.replicate b.breaks '\n' else clipped
    return (text, after)

end Folio.Yaml
