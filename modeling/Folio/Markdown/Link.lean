import Folio.Text.CaseFold
import Folio.Markdown.Inline

/-!
# Links, code and raw HTML in text

The tokens of a block are read from left to right. A construct with its own closing mark takes
all tokens up to it. Brackets wait on a stack until a closing bracket makes a link of them, or
does not; a link inside switches off the brackets around it, but not those of images.
-/

namespace Folio.Markdown

/-- The targets that a document defines, and how much its references may still write out. -/
structure References where
  /-- The targets by folded label. -/
  targets : List (List Char × Target)
  /-- The bytes of destinations and titles that are left for references. -/
  allowance : Nat
  deriving Inhabited

namespace References

/-- No targets, for a text of a size in bytes. -/
def empty (size : Nat) : References := ⟨[], max size 100000⟩

/-- Define a label, unless it is defined already. -/
def define (references : References) (label : List Char) (target : Target) : References :=
  let key := Text.caseFold label
  if (List.lookup key references.targets).isSome then references
  else { references with targets := references.targets ++ [(key, target)] }

/-- The target of a label, whatever its case, and what is left after it is written out. When nothing
is left a reference leads nowhere; the one that uses up the last of it may be of any size. -/
def spend? (references : References) (label : List Char) : Option (Target × References) :=
  if references.allowance = 0 then none
  else
    (List.lookup (Text.caseFold label) references.targets).map fun target =>
      (target,
        { references with
          allowance := references.allowance - target.size })

end References

/-- A bracket that may open a link. -/
structure Bracket where
  /-- The number of pieces in front of it. -/
  depth : Nat
  image : Bool
  active : Bool
  /-- The source after it. -/
  tail : Source
  deriving Inhabited

/-- What a bracketed label names. -/
inductive LabelKind where
  | link (label : List Char)
  | footnote (label : List Char)

/-- The label in brackets at the start of a source: a footnote's after a caret, if something
comes between it and the closing bracket. -/
def bracketedLabel? (inTable : Bool) (s : Source) : Option (LabelKind × Source) :=
  match s with
  | g :: rest =>
    if g.char = '[' then
      let asLink := (label? inTable rest).map fun (label, after) => (LabelKind.link label, after)
      match rest with
      | h :: more =>
        if h.char = '^' && (more.head?.map (·.char)) ≠ some ']' then
          match label? inTable more with
          | some (label, after) => some (.footnote label, after)
          | none => asLink
        else asLink
      | [] => none
    else none
  | [] => none

/-- The text of a code span from its source: line ends are spaces, and a space at both ends is
dropped unless there is nothing else. -/
def codeText (inTable : Bool) (s : Source) : List Char :=
  let joined := lineEndsAsSpaces (s.filter (·.role ≠ .container))
  let joined := if inTable then unescapePipes joined else joined
  if joined.head? = some ' ' && joined.getLast? = some ' ' && !joined.all (· = ' ') then
    joined.tail.dropLast
  else joined
where
  /-- Each line end as one space. -/
  lineEndsAsSpaces : Source → List Char
    | [] => []
    | g :: rest =>
      if g.char = '\r' && rest.head?.map (·.char) = some '\n' then lineEndsAsSpaces rest
      else (if g.char = '\n' || g.char = '\r' then ' ' else g.char) :: lineEndsAsSpaces rest
  /-- Escaped pipes without their backslash. -/
  unescapePipes : List Char → List Char
    | '\\' :: '|' :: rest => '|' :: unescapePipes rest
    | c :: rest => c :: unescapePipes rest
    | [] => []

/-- The text of a formula from its source. -/
def mathText (inTable : Bool) (s : Source) : List Char :=
  let joined := s.withoutContainers
  if inTable then codeText.unescapePipes joined else joined

/-- What is left of a text: its tokens, and their source. -/
structure Rest where
  tokens : List Token
  source : Source
  deriving Inhabited

namespace Rest

/-- All of a text. -/
def ofTokens (tokens : List Token) : Rest := ⟨tokens, Token.sources tokens⟩

/-- What is left after the first `n` characters of the source. -/
def drop (n : Nat) (rest : Rest) : Rest := ⟨Token.dropSources n rest.tokens, rest.source.drop n⟩

/-- How many characters of the source are passed from one point to a later one. -/
def upTo (rest after : Rest) : Nat := rest.source.length - after.source.length

/-- What is left after some tokens that come first. -/
def after (rest : Rest) (passed : List Token) (tokens : List Token) : Rest :=
  ⟨tokens, rest.source.drop (Token.sources passed).length⟩

end Rest

/-- The tokens before the first one of a kind, that one, and the tokens after it. -/
def cutAt (sought : Token → Bool) : List Token → Option (List Token × Token × List Token)
  | [] => none
  | token :: rest =>
    if sought token then some ([], token, rest)
    else (cutAt sought rest).map fun (front, found, after) => (token :: front, found, after)

namespace Token

/-- Whether a token is a run of so many backticks. -/
def isTicks (count : Nat) (token : Token) : Bool :=
  match token.kind with
  | .ticks n _ => n = count
  | _ => false

/-- Whether a token is a dollar sign. -/
def isDollar (token : Token) : Bool :=
  match token.kind with
  | .dollar .. => true
  | _ => false

/-- Whether a token is a dollar sign in a group of braces. -/
def isDollarIn (braces : UInt8) (token : Token) : Bool :=
  match token.kind with
  | .dollar _ _ group => group = braces
  | _ => false

/-- Whether a token is a dollar sign that can close. -/
def closesFormula (token : Token) : Bool :=
  match token.kind with
  | .dollar _ closes _ => closes
  | _ => false

end Token

/-- A formula after its first dollar sign: whether it is displayed, its text, and what is left
after it. Two dollar signs in a row are closed by two in a row. -/
def formula? (inTable : Bool) (braces : UInt8) (rest : Rest) :
    Option (Bool × List Char × Rest) := do
  let first :: tokens := rest.tokens | none
  if first.isDollar then
    let (inner, close, last :: after) ← cutAt (·.isDollarIn braces) tokens | none
    if last.isDollar then
      some (true, mathText inTable (Token.sources inner),
        rest.after (first :: inner ++ [close, last]) after)
    else none
  else
    let (inner, close, after) ← cutAt (·.isDollarIn braces) rest.tokens
    if close.closesFormula then
      some (false, mathText inTable (Token.sources inner), rest.after (inner ++ [close]) after)
    else none

/-- The state of the link reader. -/
structure LinkScan where
  /-- What references lead to. -/
  references : References
  /-- The pieces so far, in reverse. -/
  pieces : List Piece
  /-- Brackets that may open a link, innermost first. -/
  brackets : List Bracket
  /-- Doubled brackets that may open a link by name, innermost first. -/
  doubled : List Bracket
  deriving Inhabited

namespace LinkScan

/-- Add a piece. -/
def push (scan : LinkScan) (piece : Piece) : LinkScan :=
  { scan with pieces := piece :: scan.pieces }

/-- The pieces after the first `depth`, in order. -/
def above (scan : LinkScan) (depth : Nat) : List Piece :=
  (scan.pieces.take (scan.pieces.length - depth)).reverse

/-- Put one piece in the place of all after the first `depth`. -/
def replaceAbove (scan : LinkScan) (depth : Nat) (piece : Piece) : LinkScan :=
  { scan with pieces := piece :: scan.pieces.drop (scan.pieces.length - depth) }

/-- Switch off all brackets of links. -/
def deactivate (scan : LinkScan) : LinkScan :=
  let off (bracket : Bracket) : Bracket :=
    { bracket with active := bracket.active && bracket.image }
  { scan with brackets := scan.brackets.map off, doubled := scan.doubled.map off }

/-- Make a link of all pieces after a bracket, with the source width of its closing part. -/
def makeLink (scan : LinkScan) (bracket : Bracket) (target : Target) (closing : Nat) : LinkScan :=
  let inside := scan.above bracket.depth
  let kind := if bracket.image then LinkKind.image else .link
  let width := Piece.widths inside + closing
  let piece : Piece := ⟨width, .done (.link kind target (Inline.ofPieces (inside.drop 1)))⟩
  let scan := scan.replaceAbove bracket.depth piece
  if bracket.image then scan else scan.deactivate

/-- A link by name, `[[name]]` or `[[name|text]]`, at its closing brackets. Without a name there
is none. -/
def nameLink? (scan : LinkScan) : Option LinkScan × List Bracket :=
  match scan.doubled with
  | [] => (none, [])
  | bracket :: doubled =>
    if !bracket.active then (none, doubled)
    else
      let inside := scan.above bracket.depth
      let body := inside.drop 2
      let before := Piece.widths ((inside.take 2).drop 1)
      let hidden := (body.head?.map (·.backslash)).getD 0
      let width := Piece.widths body - hidden
      let source := Source.chars ((bracket.tail.drop (before + hidden)).take width)
      let name := source.takeWhile (· ≠ '|')
      let children :=
        if name.length < source.length then
          Inline.ofPieces (Piece.dropSources (hidden + name.length + 1) body)
        else [Inline.text source]
      if name.isEmpty then (none, doubled)
      else
        let kind := if bracket.image then LinkKind.image else .link
        let piece : Piece :=
          ⟨Piece.widths inside + 2, .done (.link kind ⟨name, []⟩ children)⟩
        let scan := { scan with doubled := [] }.replaceAbove bracket.depth piece
        (some scan.deactivate, doubled)

/-- Forbid the closing bracket at the end of the first `n` source characters to end a reference. -/
def forbid : Nat → List Token → List Token
  | _, [] => []
  | n, token :: rest =>
    if token.source.length < n then token :: forbid (n - token.source.length) rest
    else { token with kind := .linkClose false } :: rest

end LinkScan

/-- What follows a closing bracket, as a reference. -/
inductive Reference where
  /-- A label, and the number of source characters up to its closing bracket. -/
  | full (label : List Char) (width : Nat)
  /-- An empty pair of brackets, with the number of its source characters. -/
  | collapsed (width : Nat)
  /-- Neither. -/
  | shortcut

namespace Reference

/-- Read what follows a closing bracket. A backslash in front of it does not hide a label. -/
def read (inTable : Bool) (rest : Rest) : Reference :=
  let hidden := if (rest.tokens.head?.map (·.isEscaped)).getD false then 1 else 0
  let s : Source := rest.source.drop hidden
  if Source.chars (s.take 2) = ['[', ']'] then .collapsed (hidden + 2)
  else
    match bracketedLabel? inTable s with
    | some (.link label, after) => .full label (hidden + (s.length - after.length))
    | _ => .shortcut

end Reference

/-- What a closing bracket does: the new state and what to go on with, given what is left after
the bracket. -/
def closeBracket (inTable mayRefer : Bool) (close : Token) (rest : Rest) (scan : LinkScan) :
    LinkScan × Rest :=
  let literal (scan : LinkScan) : LinkScan := scan.push (Piece.ofToken close)
  match scan.brackets with
  | [] => (literal scan, rest)
  | bracket :: brackets =>
    let scan := { scan with brackets }
    if !bracket.active || scan.pieces.length ≤ bracket.depth then (literal scan, rest)
    else
      match inlineTarget? inTable rest.source with
      | some (target, after) =>
        let used := rest.source.length - after.length
        (scan.makeLink bracket target (1 + used), rest.drop used)
      | none =>
        let reference := Reference.read inTable rest
        let rest :=
          match reference with
          | .full _ width => { rest with tokens := LinkScan.forbid width rest.tokens }
          | _ => rest
        let own :=
          let width := bracket.tail.length - close.source.length - rest.source.length
          let inner := bracket.tail.take width
          match bracketedLabel? inTable (Source.ofText ['['] ++ inner ++ Source.ofText [']']) with
          | some (kind, []) => some kind
          | _ => none
        let link (label : List Char) (used : Nat) (after : Rest) :=
          match scan.references.spend? label with
          | some (target, references) =>
            ({ scan with references }.makeLink bracket target (1 + used), after)
          | none => (literal scan, rest)
        let ownLink (used : Nat) (after : Rest) :=
          if !mayRefer then (literal scan, rest)
          else
            match own with
            | some (.link label) => link label used after
            | some (.footnote label) =>
              let inside := scan.above bracket.depth
              let width := Piece.widths inside + 1
              let note : Piece := ⟨width, .done (.footnote label)⟩
              let scan := { scan.replaceAbove bracket.depth note with brackets := [] }
              if bracket.image then
                ({ scan with
                    pieces := { note with width := width - 1 } :: Piece.text 1 ['!'] ::
                      scan.pieces.tail },
                  rest)
              else (scan, rest)
            | none => (literal scan, rest)
        match reference with
        | .full label width => link label width (rest.drop width)
        | .collapsed width => ownLink width (rest.drop width)
        | .shortcut => ownLink 0 rest

/-- One token, with what is left after it: the new state and what to go on with. -/
def LinkScan.step (inTable : Bool) (scan : LinkScan) (token : Token) (rest : Rest) :
    LinkScan × Rest :=
  let literal := (scan.push (Piece.ofToken token), rest)
  match token.kind with
  | .angle =>
    match autolink? rest.source with
    | some (mail, address, used) =>
      let kind := if mail then LinkKind.mail else .link
      let piece : Piece := ⟨used + 1, .done (.link kind ⟨address, []⟩ [.text address])⟩
      (scan.push piece, rest.drop used)
    | none =>
      match inlineHtml? rest.source with
      | some (html, after) =>
        let used := rest.source.length - after.length
        (scan.push ⟨used + 1, .done (.html html)⟩, rest.drop used)
      | none => literal
  | .dollar opens _ braces =>
    if opens then
      match formula? inTable braces rest with
      | some (display, text, after) =>
        let width := token.source.length + rest.upTo after
        (scan.push ⟨width, .done (.math display text)⟩, after)
      | none => literal
    else literal
  | .ticks count escaped =>
    let sought := if escaped then count - 1 else count
    if sought = 0 then literal
    else
      match cutAt (·.isTicks sought) rest.tokens with
      | none => literal
      | some (inner, close, tokens) =>
        let own := close.source.takeWhile (·.char ≠ '`')
        let source := Token.sources inner ++ own
        let after := rest.after (inner ++ [close]) tokens
        let width := token.source.length + rest.upTo after
        let code : Piece := ⟨width, .done (.code (codeText inTable source))⟩
        if escaped then
          (({ scan with pieces := ⟨2, .escaped ['`']⟩ :: scan.pieces }).push
            { code with width := code.width - 2 }, after)
        else (scan.push code, after)
  | .imageOpen | .linkOpen =>
    let image := token.kind = .imageOpen
    let bracket : Bracket := ⟨scan.pieces.length, image, true, rest.source⟩
    let doubled :=
      match rest.tokens with
      | next :: _ => if next.kind = .linkOpen then bracket :: scan.doubled else scan.doubled
      | [] => scan.doubled
    let scan := { scan with brackets := bracket :: scan.brackets, doubled }
    (scan.push (Piece.ofToken token), rest)
  | .linkClose mayRefer =>
    match rest.tokens with
    | next :: tokens =>
      match next.kind with
      | .linkClose _ =>
        match scan.nameLink? with
        | (some linked, _) =>
          ({ linked with brackets := linked.brackets.tail }, rest.after [next] tokens)
        | (none, doubled) => closeBracket inTable mayRefer token rest { scan with doubled }
      | _ => closeBracket inTable mayRefer token rest scan
    | [] => closeBracket inTable mayRefer token rest scan
  | _ => literal

/-- Read what is left of a text. Each step leaves fewer tokens than it was given; the fuel bounds
their number. -/
def LinkScan.run (inTable : Bool) : Nat → LinkScan → Rest → LinkScan
  | 0, scan, _ => scan
  | fuel + 1, scan, rest =>
    match rest.tokens with
    | [] => scan
    | token :: tokens =>
      let (scan, rest) := scan.step inTable token (rest.after [token] tokens)
      run inTable fuel scan rest

/-- The elements of a block's text; its references are paid for. -/
def Inline.ofTokens (inTable : Bool) (tokens : List Token) : StateM References (List Inline) :=
  fun references =>
    let scan :=
      LinkScan.run inTable tokens.length ⟨references, [], [], []⟩ (Rest.ofTokens tokens)
    (Inline.ofPieces scan.pieces.reverse, scan.references)

end Folio.Markdown
