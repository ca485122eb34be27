import Folio.Markdown.Source

/-!
# Inline tokens

The text of a block is cut into tokens, each with the source that it was read from, so that the
tokens' sources join to the block's source. Whether a run of delimiters can open or close an
element is decided here, from the characters next to it; what tokens mean together is decided
later.
-/

namespace Folio.Markdown

/-- What a token may turn out to be. -/
inductive TokenKind where
  /-- Literal text; an escaped one has a backslash in front in its source. -/
  | text (escaped : Bool)
  /-- Text that the source spells in another way. -/
  | made (text : List Char)
  /-- A run of emphasis marks. -/
  | run (mark : Char) (count : Nat) (opens closes : Bool)
  /-- A straight quotation mark. -/
  | quote (mark : Char) (opens closes : Bool)
  /-- A dollar sign, with the number of the group of braces that it stands in. -/
  | dollar (opens closes : Bool) (braces : UInt8)
  /-- A run of backticks; of an escaped one, the first is literal text. -/
  | ticks (count : Nat) (escaped : Bool)
  /-- A less-than sign. -/
  | angle
  /-- An opening bracket after an exclamation mark. -/
  | imageOpen
  /-- An opening bracket. -/
  | linkOpen
  /-- A closing bracket; whether a reference may end here. -/
  | linkClose (mayRefer : Bool)
  /-- A line end. -/
  | softBreak
  /-- A line end that is kept, asked for by a backslash or by spaces. -/
  | hardBreak (backslash : Bool)
  deriving Repr, DecidableEq, Inhabited

/-- A token and its source. -/
structure Token where
  source : Source
  kind : TokenKind
  deriving Repr, Inhabited

namespace Token

/-- The literal text of a token: its source without the backslash of an escape. -/
def literal (token : Token) : List Char :=
  match token.kind with
  | .text true | .ticks _ true => Source.chars (token.source.drop 1)
  | .made text => text
  | _ => token.source.chars

/-- A token with more text at its end, if it stands for its source. -/
def extend (more : List Char) (token : Token) : Token :=
  match token.kind with
  | .made _ | .run .. | .quote .. | .softBreak | .hardBreak _ => token
  | _ => { token with source := token.source ++ Source.ofText more }

/-- Whether the source of a token starts with the backslash of an escape. -/
def isEscaped (token : Token) : Bool :=
  match token.kind with
  | .text escaped => escaped
  | .ticks _ escaped => escaped
  | _ => false

/-- The source of a list of tokens. -/
def sources (tokens : List Token) : Source := tokens.flatMap (·.source)

/-- A token without the first `n` characters of its source. -/
def dropSource (n : Nat) (token : Token) : Token :=
  match n, token.kind with
  | 0, _ => token
  | n, .text _ => ⟨token.source.drop n, .text false⟩
  | n, kind => ⟨token.source.drop n, kind⟩

/-- The tokens after the first `n` characters of their source. -/
def dropSources : Nat → List Token → List Token
  | _, [] => []
  | n, token :: rest =>
    if token.source.length ≤ n then dropSources (n - token.source.length) rest
    else token.dropSource n :: rest

end Token

/-- The numbers of the open groups of braces, and the count of the groups so far. Dollar signs pair
up only within one group. Up to a depth of 25 the groups are told apart by a number of one byte;
beyond it they are only counted. -/
structure Braces where
  groups : List UInt8
  next : Nat
  deriving Repr, DecidableEq, Inhabited

namespace Braces

/-- The depth up to which groups are told apart. -/
def maxDepth : Nat := 25

/-- The number outside all braces, until a brace is closed there. -/
def outermost : UInt8 := 255

/-- Outside all braces. -/
def empty : Braces := ⟨[], 0⟩

/-- The number of the group that a dollar sign stands in. -/
def current (braces : Braces) : UInt8 × Braces :=
  if maxDepth < braces.groups.length then (braces.next.toUInt8, braces)
  else
    match braces.groups with
    | group :: _ => (group, braces)
    | [] => (outermost, { braces with groups := [outermost] })

/-- An opening brace. -/
def opened (braces : Braces) : Braces :=
  if braces.groups.length = maxDepth then
    { groups := braces.next.toUInt8 :: braces.groups, next := maxDepth }
  else if maxDepth < braces.groups.length then { braces with next := braces.next + 1 }
  else { groups := braces.next.toUInt8 :: braces.groups, next := braces.next + 1 }

/-- A closing brace; one without an opening brace starts a new group outside all braces. -/
def closed (braces : Braces) : Braces :=
  match braces.groups with
  | [_] => { groups := [braces.next.toUInt8], next := braces.next + 1 }
  | groups =>
    if maxDepth < groups.length then
      if braces.next ≤ maxDepth then { groups := groups.tail, next := braces.next - 1 }
      else { braces with next := braces.next - 1 }
    else { braces with groups := groups.tail }

end Braces

/-- Whether a run of marks with these neighbours can open an element. The neighbour in front is
`none` at the start of a text, the other one at its end. -/
def canOpen (mark : Char) (count : Nat) (before after : Option Char) : Bool :=
  match after with
  | none => false
  | some next =>
    if Text.isBlank next then false
    else
      match before with
      | none => true
      | some prev =>
        let strong := mark = '*' || (mark = '~' && 1 < count)
        if strong && !Text.isPunctuation next then true
        else if mark = '~' && 1 < count then true
        else if mark = '~' && prev = '~' && !Text.isPunctuation next then true
        else
          Text.isBlank prev ||
            (Text.isPunctuation prev && (mark ≠ '\'' || !(prev = ']' || prev = ')')))

/-- Whether a run of marks with these neighbours can close an element. -/
def canClose (mark : Char) (count : Nat) (before after : Option Char) : Bool :=
  match before with
  | none => false
  | some prev =>
    if Text.isBlank prev then false
    else
      match after with
      | none => true
      | some next =>
        let strong := mark = '*' || (mark = '~' && 1 < count)
        if strong && !Text.isPunctuation prev then true
        else if mark = '~' && prev = '~' then true
        else Text.isBlank next || Text.isPunctuation next

/-- The dashes that a run of two or more hyphens stands for: em dashes as far as they fit. -/
def dashes (count : Nat) : List Char :=
  let (ems, ens) :=
    if count = 2 then (0, 1)
    else if count = 3 then (1, 0)
    else
      match count % 6 with
      | 0 | 3 => (count / 3, 0)
      | 2 | 4 => (0, count / 2)
      | 1 => (count / 3 - 1, 2)
      | _ => (count / 3, 1)
  List.replicate ems '—' ++ List.replicate ens '–'

/-- The state of the token reader within one line. -/
structure TokenScan where
  /-- The tokens so far, in reverse. -/
  tokens : List Token
  /-- The source of the literal text that is being read, in reverse. -/
  pending : List Char
  /-- Whether that source starts with a backslash. -/
  escaped : Bool
  /-- The character of the line's text in front, if there is one. -/
  before : Option Char
  braces : Braces
  inTable : Bool

namespace TokenScan

/-- Finish the pending literal text. -/
def flush (scan : TokenScan) : TokenScan :=
  match scan.pending with
  | [] => { scan with escaped := false }
  | pending =>
    let token : Token := ⟨Source.ofText pending.reverse, .text scan.escaped⟩
    { scan with tokens := token :: scan.tokens, pending := [], escaped := false }

/-- Add a token after the pending text. -/
def push (scan : TokenScan) (source : List Char) (kind : TokenKind) : TokenScan :=
  let scan := scan.flush
  { scan with tokens := ⟨Source.ofText source, kind⟩ :: scan.tokens }

/-- Read a character into the pending text. -/
def keep (scan : TokenScan) (c : Char) : TokenScan := { scan with pending := c :: scan.pending }

/-- Read the character `c`, with `rest` after it in the line and `beyond` after the line's text.
Also gives the number of characters of `rest` that are read with it, and whether they are
literal text. -/
def step (scan : TokenScan) (c : Char) (rest beyond : List Char) : TokenScan × Nat × Bool :=
  let literal := (scan.keep c, 0, true)
  match c with
  | '\\' =>
    match rest with
    | '`' :: _ =>
      let count := countLeading '`' rest
      (scan.push ('\\' :: List.replicate count '`') (.ticks count true), count, false)
    | '\\' :: '|' :: _ =>
      if scan.inTable then
        ({ scan.flush.push ['\\', '\\', '|'] (.made ['|']) with before := scan.before }, 2, false)
      else ({ scan.flush with pending := ['\\'], escaped := true }, 1, true)
    | d :: _ =>
      if Text.isAsciiPunctuation d then
        ({ scan.flush with pending := ['\\'], escaped := true }, 1, true)
      else literal
    | [] => literal
  | '`' =>
    let count := 1 + countLeading '`' rest
    (scan.push (List.replicate count '`') (.ticks count false), count - 1, false)
  | '<' =>
    match rest ++ beyond with
    | '\\' :: _ => literal
    | _ => (scan.push ['<'] .angle, 0, false)
  | '!' =>
    match rest with
    | '[' :: _ => (scan.push ['!', '['] .imageOpen, 1, false)
    | _ => literal
  | '[' => (scan.push ['['] .linkOpen, 0, false)
  | ']' => (scan.push [']'] (.linkClose true), 0, false)
  | '&' =>
    match entity? ('&' :: rest) with
    | some (value, after) =>
      let count := rest.length - after.length
      (scan.push ('&' :: rest.take count) (.made value), count, false)
    | none => literal
  | '.' =>
    match rest with
    | '.' :: '.' :: _ => (scan.push ['.', '.', '.'] (.made ['…']), 2, false)
    | _ => literal
  | '-' =>
    let count := 1 + countLeading '-' rest
    if count = 1 then literal
    else (scan.push (List.replicate count '-') (.made (dashes count)), count - 1, false)
  | '$' =>
    let (group, braces) := scan.braces.current
    let opens := match rest ++ beyond with | d :: _ => !isSpace d | [] => false
    let closes := match scan.before with | some d => !isSpace d | none => false
    ({ scan.push ['$'] (.dollar opens closes group) with braces }, 0, false)
  | '{' => ({ scan.keep c with braces := scan.braces.opened }, 0, true)
  | '}' => ({ scan.keep c with braces := scan.braces.closed }, 0, true)
  | _ =>
    if c = '*' || c = '_' || c = '~' || c = '^' then
      let count := 1 + countLeading c rest
      let after := (rest.drop (count - 1) ++ beyond).head?
      let opens := canOpen c count scan.before after
      let closes := canClose c count scan.before after
      if (opens || closes) && (c ≠ '~' || count ≤ 2) then
        (scan.push (List.replicate count c) (.run c count opens closes), count - 1, false)
      else (scan.keep c, count - 1, true)
    else if c = '\'' || c = '"' then
      let after := (rest ++ beyond).head?
      (scan.push [c] (.quote c (canOpen c 1 scan.before after) (canClose c 1 scan.before after)), 0,
        false)
    else literal

/-- Read the text of a line; the first `skip` characters belong to what was read before, as
literal text if `text` says so. -/
def read (scan : TokenScan) (skip : Nat) (text : Bool) (beyond : List Char) :
    List Char → TokenScan
  | [] => scan
  | c :: rest =>
    match skip with
    | k + 1 =>
      let scan := if text then scan.keep c else scan
      read { scan with before := some c } k text beyond rest
    | 0 =>
      let (scan, skip, text) := scan.step c rest beyond
      read { scan with before := some c } skip text beyond rest

end TokenScan

/-- The tokens of a line's text, with the text after it and the open braces. What the line has in
front of its text does not count as a neighbour of the first token. -/
def tokenizeLine (inTable : Bool) (text beyond : List Char) (braces : Braces) :
    List Token × Braces :=
  let scan : TokenScan := ⟨[], [], false, none, braces, inTable⟩
  let scan := (scan.read 0 true beyond text).flush
  (scan.tokens.reverse, scan.braces)

end Folio.Markdown
