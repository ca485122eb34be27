import Folio.Markdown.Token

/-!
# Inline elements

What the text of a block consists of, and the pairing of emphasis marks and quotation marks. The
input is a list of pieces: what links, code and the like left of the tokens. Marks pair within
one list only; the text of a link is a list of its own.
-/

namespace Folio.Markdown

/-- Elements that a run of marks may delimit. -/
inductive Stress where
  | emphasis
  | strong
  | strikethrough
  | subscript
  | superscript
  deriving Repr, DecidableEq, Inhabited

/-- What a link in the text is. -/
inductive LinkKind where
  | link
  | mail
  | image
  deriving Repr, DecidableEq, Inhabited

/-- An element of a block's text. -/
inductive Inline where
  | text (s : List Char)
  | code (s : List Char)
  | math (display : Bool) (s : List Char)
  | html (s : List Char)
  | softBreak
  | hardBreak
  | stress (kind : Stress) (children : List Inline)
  | link (kind : LinkKind) (target : Target) (children : List Inline)
  | footnote (label : List Char)
  | task (done : Bool)
  deriving Repr, Inhabited

/-- What a piece of text still has to be read as. -/
inductive PieceKind where
  | done (element : Inline)
  /-- Literal text with a backslash in front of it. -/
  | escaped (s : List Char)
  | run (mark : Char) (count : Nat) (opens closes : Bool)
  | quote (mark : Char) (opens closes : Bool)
  /-- A line end kept by a backslash; at the end of its list it is only the backslash. -/
  | backslashBreak
  deriving Repr, Inhabited

/-- A piece of a block's text, with the number of source characters that it covers. -/
structure Piece where
  width : Nat
  kind : PieceKind
  deriving Repr, Inhabited

namespace Piece

/-- The number of source characters that pieces cover. -/
def widths : List Piece → Nat
  | [] => 0
  | piece :: rest => piece.width + widths rest

/-- A literal piece. -/
def text (width : Nat) (s : List Char) : Piece := ⟨width, .done (.text s)⟩

/-- The piece that a token is when it takes part in no larger construct. -/
def ofToken (token : Token) : Piece :=
  let width := token.source.length
  match token.kind with
  | .run mark count opens closes => ⟨width, .run mark count opens closes⟩
  | .quote mark opens closes => ⟨width, .quote mark opens closes⟩
  | .softBreak => ⟨width, .done .softBreak⟩
  | .hardBreak false => ⟨width, .done .hardBreak⟩
  | .hardBreak true => ⟨width, .backslashBreak⟩
  | _ => if token.isEscaped then ⟨width, .escaped token.literal⟩ else text width token.literal

/-- The width of the backslash in front of a piece. -/
def backslash (piece : Piece) : Nat :=
  match piece.kind with
  | .escaped _ => 1
  | _ => 0

/-- The pieces after the first `n` characters of their source. A piece that is written as its source
starts there; an escaped one may then start with its backslash. -/
def dropSources : Nat → List Piece → List Piece
  | _, [] => []
  | n, piece :: rest =>
    if piece.width ≤ n then dropSources (n - piece.width) rest
    else
      let width := piece.width - n
      let kind :=
        match piece.kind with
        | .escaped s => .done (.text (('\\' :: s).drop n))
        | .done (.text s) => .done (.text (if s.length = piece.width then s.drop n else s))
        | .done (.html s) => .done (.html (if s.length = piece.width then s.drop n else s))
        | kind => kind
      ⟨width, kind⟩ :: rest

end Piece

/-- Whether a single quotation mark that opens is closed later. -/
def closedLater : List Piece → Bool
  | [] => false
  | piece :: rest =>
    match piece.kind with
    | .quote '\'' opens closes => if closes then true else if opens then false else closedLater rest
    | _ => closedLater rest

/-- Turn straight quotation marks into curled ones. -/
def curlQuotes (singleOpen doubleOpen : Bool) : List Piece → List Piece
  | [] => []
  | piece :: rest =>
    match piece.kind with
    | .quote mark opens closes =>
      if mark = '\'' then
        if singleOpen && closes then
          Piece.text piece.width ['’'] :: curlQuotes false doubleOpen rest
        else if opens then
          let c := if closedLater rest then '‘' else '’'
          Piece.text piece.width [c] :: curlQuotes true doubleOpen rest
        else Piece.text piece.width ['’'] :: curlQuotes singleOpen doubleOpen rest
      else if closes && doubleOpen then
        Piece.text piece.width ['”'] :: curlQuotes singleOpen false rest
      else Piece.text piece.width ['“'] :: curlQuotes singleOpen (doubleOpen || opens) rest
    | _ => piece :: curlQuotes singleOpen doubleOpen rest

/-- A run that is open, with the elements that came after it, in reverse. -/
structure OpenRun where
  mark : Char
  /-- The marks that are not paired yet. -/
  count : Nat
  /-- The marks of the run as it was written. -/
  size : Nat
  /-- Whether the run could close an element too. -/
  both : Bool
  content : List Inline
  deriving Inhabited

namespace OpenRun

/-- The unpaired marks as text, and what came after them, in reverse. -/
def elements (run : OpenRun) : List Inline :=
  run.content ++ [Inline.text (List.replicate run.count run.mark)]

/-- Whether a closing run pairs with this one. The sum of two lengths must not be a multiple of
three, unless both are, if one of the runs could do both. -/
def pairsWith (run : OpenRun) (mark : Char) (size : Nat) (both : Bool) : Bool :=
  run.mark = mark && (mark ≠ '~' || size = run.size) &&
    ((!both && !run.both) || (size + run.size) % 3 ≠ 0 || size % 3 = 0)

end OpenRun

/-- Whether runs of a mark raise or lower text or strike it. One of these that finds nothing to
close hides all open runs in front from those that come after it. -/
def isShift (mark : Char) : Bool := mark = '~' || mark = '^'

/-- The state of the pairing. -/
structure StressScan where
  /-- Elements outside all open runs, in reverse. -/
  outside : List Inline
  /-- The open runs, innermost first. -/
  runs : List OpenRun
  /-- The number of outermost open runs that are hidden from tildes and carets. -/
  hidden : Nat
  deriving Inhabited

namespace StressScan

/-- Add elements, given in reverse, after all others. -/
def add (scan : StressScan) (elements : List Inline) : StressScan :=
  match scan.runs with
  | [] => { scan with outside := elements ++ scan.outside }
  | run :: runs => { scan with runs := { run with content := elements ++ run.content } :: runs }

/-- Give up the innermost open run. -/
def giveUp (scan : StressScan) : StressScan :=
  match scan.runs with
  | [] => scan
  | run :: runs => { scan with runs }.add run.elements

/-- Give up open runs until `n` are left. -/
def giveUpTo (n : Nat) (scan : StressScan) : StressScan :=
  (List.range (scan.runs.length - n)).foldl (fun scan _ => scan.giveUp) scan

/-- The elements that `n` pairs of marks make around a content: pairs of two inside. -/
def wrap (mark : Char) : Nat → List Inline → Inline
  | 0, content => .stress .emphasis content
  | 1, content => .stress (kind .subscript .emphasis) content
  | 2, content => double content
  | n + 3, content => wrap mark (n + 1) [double content]
where
  /-- The element of a pair of marks, given those of tildes and of asterisks. -/
  kind (tilde star : Stress) : Stress :=
    if mark = '~' then tilde else if mark = '^' then .superscript else star
  /-- The element of a pair of two marks. -/
  double (content : List Inline) : Inline :=
    .stress (kind .strikethrough .strong) content

/-- Close open runs by a run of marks as long as one pairs with it; also the marks left over. -/
def close (mark : Char) (size : Nat) (both : Bool) (left : Nat) (scan : StressScan) :
    StressScan × Nat :=
  if left = 0 then (scan, 0)
  else
    let reach := if isShift mark then scan.runs.length - scan.hidden else scan.runs.length
    match (scan.runs.take reach).findIdx? (·.pairsWith mark size both) with
    | none => ({ scan with hidden := if isShift mark then scan.runs.length else scan.hidden }, left)
    | some inner =>
      let scan := scan.giveUpTo (scan.runs.length - inner)
      match scan.runs with
      | [] => (scan, left)
      | run :: runs =>
        let paired := max 1 (min left run.count)
        let element := wrap mark paired run.content.reverse
        let hidden := min scan.hidden runs.length
        let scan : StressScan :=
          if paired < run.count then
            { scan with
              runs := { run with count := run.count - paired, content := [element] } :: runs,
              hidden }
          else { scan with runs, hidden }.add [element]
        close mark size both (left - paired) scan
termination_by left

/-- Take in one piece; `last` says that none follows. -/
def step (scan : StressScan) (piece : Piece) (last : Bool) : StressScan :=
  match piece.kind with
  | .done element => scan.add [element]
  | .escaped s => scan.add [.text s]
  | .quote mark _ _ => scan.add [.text [mark]]
  | .backslashBreak => scan.add [if last then .text ['\\'] else .hardBreak]
  | .run mark count opens closes =>
    let both := opens && closes
    let (scan, left) := if closes then scan.close mark count both count else (scan, count)
    if left = 0 then scan
    else if opens then { scan with runs := ⟨mark, left, count, both, []⟩ :: scan.runs }
    else scan.add [.text (List.replicate left mark)]

/-- Take in all pieces. -/
def run (scan : StressScan) : List Piece → StressScan
  | [] => scan
  | piece :: rest => run (scan.step piece rest.isEmpty) rest

end StressScan

/-- The elements of a list of pieces. -/
def Inline.ofPieces (pieces : List Piece) : List Inline :=
  let scan : StressScan := ⟨[], [], 0⟩
  ((scan.run (curlQuotes false false pieces)).giveUpTo 0).outside.reverse

end Folio.Markdown
