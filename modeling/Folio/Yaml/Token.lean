import Folio.Yaml.Scalar

/-!
# Tokens

A text is cut into tokens. Indentation gives the tokens that open and close block collections, and
a `:` behind a token makes that token a key after all, so the tokens that say so are put in front
of it.
-/

namespace Folio.Yaml

open Folio.Text (hexDigit?)

/-- A token. -/
inductive Token where
  | documentStart
  | documentEnd
  | versionDirective
  | tagDirective (handle start : List Char)
  | blockSequenceStart
  | blockMappingStart
  | blockEnd
  | flowSequenceStart
  | flowSequenceEnd
  | flowMappingStart
  | flowMappingEnd
  | blockEntry
  | flowEntry
  | key
  | value
  | alias (name : List Char)
  | anchor (name : List Char)
  | tag (handle suffix : List Char)
  /-- A scalar, and whether it is plain. -/
  | scalar (plain : Bool) (text : List Char)
  deriving Repr, DecidableEq, Inhabited

/-- A level of indentation. One that opens no collection asks for a column more than the collection
around it. -/
structure Level where
  column : Int
  collection : Bool
  deriving Repr, DecidableEq

/-- A place where a key may have started, before the token with that number. -/
structure KeyPlace where
  number : Nat
  offset : Nat
  line : Nat
  column : Nat
  deriving Repr, DecidableEq

/-- A text that is being cut into tokens. -/
structure Scan where
  cursor : Cursor
  /-- The tokens so far, the last one first. -/
  tokens : List Token
  /-- The levels of indentation, the innermost one first. -/
  levels : List Level
  /-- Where a key may have started: one entry for each open flow collection and, last, one for the
  block around them. -/
  keys : List (Option KeyPlace)
  /-- Whether a key may start here. -/
  keyAllowed : Bool
  /-- Whether the mapping that a `:` belongs to has been opened. -/
  mappingOpen : Bool
  /-- Whether a mapping without braces is open. It ends with the next entry or collection, even one
  within it. -/
  bare : Bool
  /-- The offset at which a `:` may have its value next to it. -/
  adjacentAt : Nat
  /-- The column of the last token that was read. -/
  lastColumn : Nat
  deriving Repr, DecidableEq

namespace Scan

/-- The start of a text. -/
def start (text : List Char) : Scan :=
  ⟨Cursor.start text, [], [], [none], true, false, false, 0, 0⟩

/-- How many flow collections are open. -/
def depth (s : Scan) : Nat := s.keys.length - 1

/-- Whether a flow collection is open. -/
def inFlow (s : Scan) : Bool := 0 < s.depth

/-- The column of the innermost level, or -1. -/
def indent (s : Scan) : Int :=
  match s.levels with
  | level :: _ => level.column
  | [] => -1

/-- Add a token. -/
def push (s : Scan) (token : Token) : Scan := { s with tokens := token :: s.tokens }

/-- Put a token in front of the one with a number. -/
def insert (s : Scan) (number : Nat) (token : Token) : Scan :=
  { s with tokens := s.tokens.insertIdx (s.tokens.length - number) token }

/-- Move the cursor. -/
def moveTo (s : Scan) (cursor : Cursor) : Scan := { s with cursor }

/-- Leave the levels that are indented by more than a column. -/
def closeLevels (column : Int) : List Level → List Token → List Level × List Token
  | [], tokens => ([], tokens)
  | level :: levels, tokens =>
    if column < level.column then
      closeLevels column levels (if level.collection then .blockEnd :: tokens else tokens)
    else (level :: levels, tokens)

/-- Leave the levels that are indented by more than a column, outside flow collections. -/
def close (s : Scan) (column : Int) : Scan :=
  if s.inFlow then s
  else
    let (levels, tokens) := closeLevels column s.levels s.tokens
    { s with levels, tokens }

/-- Leave the levels that open no collection. -/
def settle (s : Scan) : Scan :=
  { s with levels := s.levels.dropWhile fun level => !level.collection }

/-- Ask what follows for a column more than the collection around it. -/
def indentMore (s : Scan) : Scan :=
  match s.levels with
  | level :: _ =>
    if !s.inFlow && level.collection then
      { s with levels := ⟨level.column + 1, false⟩ :: s.levels }
    else s
  | [] => s

/-- Open a block collection at a column, unless it is open. Its token goes to the end, or in front
of the token with a number. -/
def openBlock (s : Scan) (column : Nat) (number : Option Nat) (token : Token) : Scan :=
  if s.inFlow then s
  else
    let levels :=
      match s.levels with
      | level :: levels =>
        if level.column ≤ column && !level.collection then levels else level :: levels
      | [] => []
    let s := { s with levels }
    if s.indent < (column : Int) then
      let s := { s with levels := ⟨column, true⟩ :: s.levels }
      match number with
      | some number => s.insert number token
      | none => s.push token
    else s

/-- Replace the place where a key may have started in the innermost collection. -/
def setKey (s : Scan) (key : Option KeyPlace) : Scan := { s with keys := key :: s.keys.tail }

/-- Note that a key may start here. -/
def noteKey (s : Scan) : Scan :=
  if s.keyAllowed then
    s.setKey (some ⟨s.tokens.length, s.cursor.offset, s.cursor.line, s.cursor.column⟩)
  else s

/-- Forget the key places that are too far back: a key outside flow collections is on one line and
no longer than 1024 characters. -/
def forgetKeys (s : Scan) : Scan :=
  if s.inFlow then s
  else
    { s with
      keys :=
        s.keys.map fun key =>
          key.filter fun place =>
            !(place.line < s.cursor.line || place.offset + 1024 < s.cursor.offset) }

/-- Allow or forbid a key. -/
def allowKey (s : Scan) (allowed : Bool) : Scan := { s with keyAllowed := allowed }

/-- Pass white space, line ends and comments in front of a token. The fuel bounds the characters
passed. -/
def skip? : Nat → Scan → Option Scan
  | 0, s => some s
  | fuel + 1, s =>
    match s.cursor.rest with
    | [] => some s
    | d :: _ =>
      if d = '\t' && !s.levels.isEmpty && s.cursor.fresh && s.cursor.column < s.indent then
        match s.cursor.margin? true with
        | none => none
        | some margin =>
          if lineEnds margin.cursor.rest then skip? fuel (s.moveTo margin.cursor) else none
      else if isGap d then skip? fuel (s.moveTo (s.cursor.pass 1))
      else if isBreak d then
        skip? fuel { s with cursor := s.cursor.passBreak, keyAllowed := s.keyAllowed || !s.inFlow }
      else if d = '#' then skip? fuel (s.moveTo s.cursor.passComment)
      else some s

/-- Pass what may stand in front of a token. -/
def skipBlank? (s : Scan) : Option Scan := skip? (s.cursor.rest.length + 1) s

/-- Pass white space and a comment behind a token. -/
def margin? (s : Scan) (tabs : Bool) : Option (Scan × Cursor.Margin) :=
  (s.cursor.margin? tabs).map fun margin => (s.moveTo margin.cursor, margin)

/-- End a mapping without braces. -/
def endBare (s : Scan) : Scan :=
  if s.bare then ({ s with bare := false, mappingOpen := false } : Scan).push .flowMappingEnd else s

/-- The start of a flow collection. No more than 255 may be open. -/
def flowStart? (s : Scan) (token : Token) : Option Scan := do
  let s := s.noteKey.indentMore
  if s.depth = 255 then none
  let s := { s with keys := none :: s.keys, keyAllowed := true, cursor := s.cursor.passSolid 1 }
  let s := if token = .flowMappingStart then { s with mappingOpen := true } else s
  let (s, _) ← s.margin? true
  return s.push token

/-- The end of a flow collection. -/
def flowEnd? (s : Scan) (token : Token) : Option Scan := do
  let s := s.setKey none
  let s := if s.inFlow then { s with keys := s.keys.tail } else s
  let s := s.allowKey false
  let s := if token = .flowSequenceEnd then s.endBare else s
  let (s, _) ← (s.moveTo (s.cursor.passSolid 1)).margin? true
  let s := if s.inFlow then { s with adjacentAt := s.cursor.offset } else s
  return s.push token

/-- A comma. -/
def flowEntry? (s : Scan) : Option Scan := do
  let s := ((s.setKey none).allowKey true).endBare
  let (s, _) ← (s.moveTo (s.cursor.passSolid 1)).margin? true
  return s.push .flowEntry

/-- Whether the last token is an anchor or a tag at the margin, within a collection. -/
def strayProperty (s : Scan) : Bool :=
  0 ≤ s.indent && s.lastColumn = 0 &&
    match s.tokens with
    | .anchor _ :: _ => true
    | .tag _ _ :: _ => true
    | _ => false

/-- A hyphen before an entry of a block sequence. -/
def blockEntry? (s : Scan) : Option Scan := do
  if s.inFlow || !s.keyAllowed || (s.cursor.column = 0 && s.strayProperty) then none
  let column := s.cursor.column
  let s := (s.moveTo (s.cursor.passSolid 1)).openBlock column none .blockSequenceStart
  let (s, margin) ← s.margin? true
  let again := match s.cursor.rest with | '-' :: rest => spaceNext rest | _ => false
  if margin.tab && again then none
  let (s, _) ← s.margin? false
  let empty := match s.cursor.rest with | d :: _ => isBreak d || isFlowMark d | [] => false
  let s := if empty then s.indentMore else s
  return ((s.setKey none).allowKey true).push .blockEntry

/-- Pass white space, line ends and comments behind a question mark; there must be some. The fuel
bounds the characters passed. -/
def keySpace? : Nat → Bool → Scan → Option Scan
  | 0, _, s => some s
  | fuel + 1, missing, s =>
    match s.cursor.rest with
    | [] => if missing then none else some s
    | d :: _ =>
      if d = ' ' then keySpace? fuel false (s.moveTo (s.cursor.pass 1))
      else if isBreak d then
        keySpace? fuel false
          { s with cursor := s.cursor.passBreak, keyAllowed := s.keyAllowed || !s.inFlow }
      else if d = '#' then keySpace? fuel missing (s.moveTo s.cursor.passComment)
      else if missing || d = '\t' then none
      else some s

/-- A question mark before a key. -/
def keyMark? (s : Scan) : Option Scan := do
  if !s.inFlow && !s.keyAllowed then none
  let s :=
    if s.inFlow then { s with mappingOpen := true }
    else s.openBlock s.cursor.column none .blockMappingStart
  let s := (s.setKey none).allowKey (!s.inFlow)
  let s ← keySpace? (s.cursor.rest.length + 1) true (s.moveTo (s.cursor.passSolid 1))
  return s.push .key

/-- A colon before a value. -/
def valueMark? (s : Scan) : Option Scan := do
  let bare := s.inFlow && !s.mappingOpen
  let startLine := s.cursor.line
  let startColumn := s.cursor.column
  let s := { s with bare }
  let s := s.moveTo (s.cursor.passSolid 1)
  let s ←
    if s.cursor.rest.head? = some '\t' then do
      let (s, margin) ← s.margin? true
      let solid :=
        match s.cursor.rest with | d :: _ => d = '-' || isNameChar d | [] => false
      if !margin.space && solid then none else some s
    else some s
  match s.keys.head?.join with
  | some place =>
    if bare && place.line < startLine then none
    let s := s.insert place.number .key
    let s := if bare then s.insert place.number .flowMappingStart else s
    let s := (s.openBlock place.column (some place.number) .blockMappingStart).indentMore
    return ((s.setKey none).allowKey false).push .value
  | none =>
    let s := if bare then s.push .flowMappingStart else s
    if !s.inFlow && !s.keyAllowed then none
    let s := (s.openBlock startColumn none .blockMappingStart).indentMore
    return (s.allowKey (!s.inFlow)).push .value

/-- The character that starts a text in some encodings. -/
def byteOrderMark : Char := '\ufeff'

/-- A character of the name of an anchor. -/
def isAnchorChar (c : Char) : Bool := !isSpace c && c ≠ byteOrderMark && !isFlowMark c

/-- An anchor or an alias. -/
def anchor? (s : Scan) (token : List Char → Token) : Option Scan :=
  let s := s.noteKey.allowKey false
  let name := (s.cursor.rest.drop 1).takeWhile isAnchorChar
  if name.isEmpty then none
  else some ((s.moveTo (s.cursor.passSolid (1 + name.length))).push (token name))

/-- A character of a resource name. -/
def isResourceChar (c : Char) : Bool :=
  (isNameChar c && c ≠ '_') || "#;/?:@&=+$,_.!~*'()[]%".toList.contains c

/-- A character of the suffix of a tag. -/
def isTagChar (c : Char) : Bool := isResourceChar c && !isFlowMark c && c ≠ '!'

/-- The byte that an escape in a resource name spells. -/
def escapedByte? : List Char → Option Nat
  | '%' :: a :: b :: _ => do return 16 * (← hexDigit? a) + (← hexDigit? b)
  | _ => none

/-- How many bytes follow the leading byte of a character. -/
def trailingBytes? (byte : Nat) : Option Nat :=
  if byte < 0x80 then some 0
  else if byte / 0x20 = 6 then some 1
  else if byte / 0x10 = 14 then some 2
  else if byte / 8 = 30 then some 3
  else none

/-- The number that escaped bytes after a leading byte spell; the bytes are put side by side. -/
def trailing? : Nat → Nat → List Char → Option (Nat × List Char)
  | 0, code, rest => some (code, rest)
  | count + 1, code, rest => do
    let byte ← escapedByte? rest
    if byte / 0x40 = 2 then trailing? count (code * 256 + byte) (rest.drop 3) else none

/-- The character that escaped bytes spell. -/
def escapedChar? (s : List Char) : Option (Char × List Char) := do
  let byte ← escapedByte? s
  let (code, rest) ← trailing? (← trailingBytes? byte) byte (s.drop 3)
  let c ← scalarValue? code
  return (c, rest)

/-- Characters of a class with their escapes resolved, and the rest. The fuel bounds the
characters. -/
def resource? (accepts : Char → Bool) : Nat → List Char → Option (List Char × List Char)
  | 0, s => some ([], s)
  | fuel + 1, s =>
    match s with
    | [] => some ([], [])
    | c :: rest =>
      if !accepts c then some ([], s)
      else if c = '%' then do
        let (d, rest) ← escapedChar? s
        let (more, rest) ← resource? accepts fuel rest
        return (d :: more, rest)
      else do
        let (more, rest) ← resource? accepts fuel rest
        return (c :: more, rest)

/-- The handle of a tag, and the rest. A directive's handle is `!` or ends with `!`. -/
def handle? (directive : Bool) : List Char → Option (List Char × List Char)
  | '!' :: rest =>
    let name := rest.takeWhile isNameChar
    match rest.drop name.length with
    | '!' :: rest => some ('!' :: name ++ ['!'], rest)
    | rest => if directive && !name.isEmpty then none else some ('!' :: name, rest)
  | _ => none

/-- A handle and a suffix, and the rest. -/
def tagParts? (s : List Char) : Option (List Char × List Char × List Char) :=
  match s with
  | '!' :: '<' :: rest => do
    let (name, rest) ← resource? isResourceChar rest.length rest
    match rest with
    | '>' :: rest => return ([], name, rest)
    | _ => none
  | _ => do
    let (handle, rest) ← handle? false s
    let (suffix, rest) ← resource? isTagChar rest.length rest
    if 2 ≤ handle.length && handle.getLast? = some '!' then return (handle, suffix, rest)
    else
      let suffix := handle.drop 1 ++ suffix
      return if suffix.isEmpty then ([], ['!'], rest) else (['!'], suffix, rest)

/-- A tag. -/
def tag? (s : Scan) : Option Scan := do
  let s := s.noteKey.allowKey false
  let (handle, suffix, rest) ← tagParts? s.cursor.rest
  let s := s.moveTo (s.cursor.passSolid (s.cursor.rest.length - rest.length))
  let ends :=
    spaceNext rest || (s.inFlow && match rest with | d :: _ => isFlowMark d | [] => false)
  if ends then return s.push (.tag handle suffix) else none

/-- The number of a version: one to nine digits. -/
def version? (s : List Char) : Option (List Char) :=
  let digits := s.takeWhile Char.isDigit
  if digits.isEmpty || 9 < digits.length then none else some (s.drop digits.length)

/-- The token of a directive, and the rest. -/
def directiveParts? (s : List Char) : Option (Token × List Char) := do
  let name := s.takeWhile isNameChar
  let rest := s.drop name.length
  if name.isEmpty || !spaceNext rest then none
  if name = "YAML".toList then
    match ← version? (rest.dropWhile isGap) with
    | '.' :: rest => return (.versionDirective, ← version? rest)
    | _ => none
  else if name = "TAG".toList then
    let (handle, rest) ← handle? true (rest.dropWhile isGap)
    let rest := rest.dropWhile isGap
    let first ← rest.head?
    if first ≠ '!' && !isTagChar first then none
    let (start, rest) ← resource? isResourceChar rest.length rest
    if spaceNext rest then return (.tagDirective handle start, rest) else none
  else return (.tagDirective [] [], rest.dropWhile fun d => !isBreak d)

/-- A directive. -/
def directive? (s : Scan) : Option Scan := do
  let s := ((s.close (-1)).setKey none).allowKey false
  let (token, rest) ← directiveParts? (s.cursor.rest.drop 1)
  let s := s.moveTo (s.cursor.passSolid (s.cursor.rest.length - rest.length))
  let (s, _) ← s.margin? true
  if !lineEnds s.cursor.rest then none
  let s := if s.cursor.rest.isEmpty then s else s.moveTo s.cursor.passBreak
  return s.push token

/-- A quoted scalar. -/
def quotedToken? (s : Scan) (single : Bool) : Option Scan := do
  let s := s.noteKey.allowKey false
  let startLine := s.cursor.line
  let (text, cursor) ← quoted? single s.indent s.cursor
  let (s, _) ← (s.moveTo cursor).margin? true
  let fits :=
    match s.cursor.rest with
    | [] => true
    | d :: _ =>
      isBreak d || (s.inFlow && (d = ',' || d = '}' || d = ']')) ||
        (d = ':' && (s.inFlow || startLine = s.cursor.line))
  if !fits then none
  let s ← s.skipBlank?
  return ({ s with adjacentAt := s.cursor.offset } : Scan).push (.scalar false text)

/-- A plain scalar. -/
def plainToken? (s : Scan) : Option Scan := do
  let s := (s.noteKey.allowKey false).settle
  let (text, cursor) ← plain? s.inFlow (s.indent + 1) s.cursor
  return ({ s with cursor, keyAllowed := cursor.fresh } : Scan).push (.scalar true text)

/-- A block scalar. -/
def blockToken? (s : Scan) (literal : Bool) : Option Scan := do
  let s := (s.noteKey.allowKey true).settle
  let (text, cursor) ← block? literal s.indent s.cursor
  return (s.moveTo cursor).push (.scalar false text)

/-- The start or the end of a document. -/
def boundary? (s : Scan) (token : Token) : Option Scan := do
  let s := ((s.close (-1)).setKey none).allowKey false
  let s := (s.moveTo (s.cursor.passSolid 3)).push token
  if token = .documentEnd then
    let (s, _) ← s.margin? true
    if lineEnds s.cursor.rest then return s else none
  else return s

/-- Read the token that starts at the cursor; `c` is its first character. -/
def token? (s : Scan) (c : Char) (rest : List Char) : Option Scan :=
  let flowNext := match rest with | d :: _ => isFlowMark d | [] => false
  if s.cursor.column = 0 && c = '%' then s.directive?
  else if s.cursor.atMarker '-' then s.boundary? .documentStart
  else if s.cursor.atMarker '.' then s.boundary? .documentEnd
  else if s.cursor.column < s.indent then none
  else if c = '[' then s.flowStart? .flowSequenceStart
  else if c = '{' then s.flowStart? .flowMappingStart
  else if c = ']' then s.flowEnd? .flowSequenceEnd
  else if c = '}' then s.flowEnd? .flowMappingEnd
  else if c = ',' then s.flowEntry?
  else if c = '-' && spaceNext rest then s.blockEntry?
  else if c = '?' && spaceNext rest then s.keyMark?
  else if c = ':' &&
      (spaceNext rest || (s.inFlow && (flowNext || s.cursor.offset = s.adjacentAt))) then
    s.valueMark?
  else if c = '*' then s.anchor? .alias
  else if c = '&' then s.anchor? .anchor
  else if c = '!' then s.tag?
  else if c = '|' && !s.inFlow then s.blockToken? true
  else if c = '>' && !s.inFlow then s.blockToken? false
  else if c = '\'' then s.quotedToken? true
  else if c = '"' then s.quotedToken? false
  else if c = '%' || c = '@' || c.toNat = 96 then none
  else s.plainToken?

/-- Read the tokens of what is left of the text. The fuel bounds the tokens read. -/
def run? : Nat → Scan → Option Scan
  | 0, s => some s
  | fuel + 1, s => do
    let s ← s.skipBlank?
    let s := s.forgetKeys
    match s.cursor.rest with
    | [] => return s.close (-1)
    | c :: rest =>
      let s := s.close s.cursor.column
      let next ← s.token? c rest
      run? fuel { next with lastColumn := s.cursor.column }

end Scan

/-- The tokens of a text. A character that is no part of any text ends it. -/
def Token.ofText? (text : List Char) : Option (List Token) :=
  let text := text.takeWhile (· ≠ '\x00')
  (Scan.run? (text.length + 1) (Scan.start text)).map fun s => s.tokens.reverse

end Folio.Yaml
