import Folio.Pattern.Bracket
import Folio.Text.Word

/-!
# Reading patterns

A pattern is read from left to right. The reader keeps what it has read of the innermost group, and
the groups around it on a stack. A pattern of letters, digits and vertical bars is the alternation
of its words.
-/

namespace Folio.Pattern

/-- A group that is not closed yet: how it opens, what its group held before it, and the mode in
which that group goes on. -/
structure OpenGroup where
  span : Span
  captures : Bool
  settings : List Setting
  outerItems : List Tree
  outerStart : Place
  outerBranches : List Tree
  outerBranchStart : Place
  outerVerbose : Bool

/-- What the reader has of a pattern: the current branch (last part first) and where it starts, the
branches before it (last first) and where those start, the open groups and the group names. -/
structure ParseState where
  items : List Tree
  start : Place
  branches : List Tree
  branchStart : Place
  groups : List OpenGroup
  names : List (List Char × Span)

/-- The parts of a branch as one tree. -/
def Tree.ofItems (span : Span) (items : List Tree) : Tree :=
  match items with
  | [] => .empty span
  | [item] => item
  | items => .concat span items.reverse

/-- The branches of a group as one tree. -/
def ParseState.tree (s : ParseState) (stop : Place) : Tree :=
  let last := Tree.ofItems ⟨s.start, stop⟩ s.items
  match s.branches with
  | [] => last
  | branches => .alternation ⟨s.branchStart, stop⟩ (last :: branches).reverse

/-- Add a part to the current branch. -/
def ParseState.push (s : ParseState) (item : Tree) : ParseState :=
  { s with items := item :: s.items }

/-- End the current branch at a vertical bar. -/
def ParseState.nextBranch (s : ParseState) (c : Cursor) : ParseState × Cursor :=
  let branch := Tree.ofItems (c.since s.start) s.items
  let after := c.pass
  let branchStart := if s.branches.isEmpty then s.start else s.branchStart
  let branches := branch :: s.branches
  ({ s with items := [], start := after.place, branches, branchStart }, after)

/-- The setting of a letter. -/
def flag? : Char → Option Flag
  | 'i' => some .ignoreCase
  | 'm' => some .multiLine
  | 's' => some .dotAll
  | 'U' => some .swapGreed
  | 'u' => some .unicode
  | 'R' => some .crlf
  | 'x' => some .verbose
  | _ => none

/-- The settings up to a colon or a closing parenthesis. A hyphen switches off those after it; no
setting may be named twice. `seen` holds the letters so far, `dash` the hyphen. -/
def readSettings (dash : Option Span) (last : Bool) (seen : List (Flag × Span))
    (settings : List Setting) : Nat → Cursor → Except Fault (List Setting × Cursor)
  | 0, c => c.refuseHere .flagCut
  | fuel + 1, c =>
    match c.head? with
    | none => c.refuseHere .flagCut
    | some x =>
      if x = ':' || x = ')' then
        match dash with
        | some span =>
          if last then .error { span, cause := .flagDangling } else .ok (settings.reverse, c)
        | none => .ok (settings.reverse, c)
      else if x = '-' then
        match dash with
        | some earlier => .error { span := c.charSpan, cause := .flagNegatedTwice, earlier }
        | none => readSettings (some c.charSpan) true seen settings fuel c.pass
      else
        match flag? x with
        | none => c.refuseChar .flagUnknown
        | some flag =>
          match seen.lookup flag with
          | some earlier => .error { span := c.charSpan, cause := .flagRepeated, earlier }
          | none =>
            let setting := { flag, on := dash.isNone }
            readSettings dash false ((flag, c.charSpan) :: seen) (setting :: settings) fuel c.pass

/-- A character of the name of a group. -/
def isNameChar (first : Bool) (c : Char) : Bool :=
  c = '_' || Text.isAlphabetic c ||
    !first && (c = '.' || c = '[' || c = ']' || Text.isNumeric c)

/-- The name of a group, up to an angle bracket. -/
def readName (name : List Char) : Nat → Cursor → Except Fault (List Char × Cursor)
  | 0, c => c.refuseHere .nameCut
  | fuel + 1, c =>
    match c.head? with
    | none => c.refuseHere .nameCut
    | some '>' => .ok (name.reverse, c)
    | some x =>
      if isNameChar name.isEmpty x then readName (x :: name) fuel c.pass
      else c.refuseChar .nameInvalid

/-- How a verbose mode goes on after some settings. -/
def verboseAfter (settings : List Setting) (verbose : Bool) : Bool :=
  match settings.find? (·.flag = .verbose) with
  | some setting => setting.on
  | none => verbose

/-- Go into a group. -/
def ParseState.enter (s : ParseState) (span : Span) (captures : Bool) (settings : List Setting)
    (c : Cursor) : ParseState × Cursor :=
  let group : OpenGroup :=
    { span, captures, settings
      outerItems := s.items
      outerStart := s.start
      outerBranches := s.branches
      outerBranchStart := s.branchStart
      outerVerbose := c.verbose }
  let c := { c with verbose := verboseAfter settings c.verbose }
  ({ s with
      items := [], start := c.place, branches := [], branchStart := c.place
      groups := group :: s.groups }, c)

/-- Open a group, or change settings for the rest of this one. -/
def ParseState.openGroup (s : ParseState) (c : Cursor) : Except Fault (ParseState × Cursor) := do
  let span := c.charSpan
  let c := c.next
  let ahead := ["?=", "?!", "?<=", "?<!"].findSome? fun text => c.after? text.toList
  if let some c := ahead then c.refuse span.start .lookAround
  match c.after? "?P<".toList <|> c.after? "?<".toList with
  | some c =>
    let start := c.place
    let (name, c) ← readName [] (c.rest.length + 1) c
    let nameSpan := c.since start
    if name.isEmpty then throw { span := start.span, cause := .nameEmpty }
    if let some earlier := s.names.lookup name then
      throw { span := nameSpan, cause := .nameRepeated, earlier }
    return { s with names := (name, nameSpan) :: s.names }.enter span true [] c.pass
  | none =>
    match c.after? ['?'] with
    | some inner =>
      if inner.atEnd then throw { span, cause := .groupUnclosed }
      let (settings, after) ← readSettings none false [] [] (inner.rest.length + 1) inner
      if after.head? = some ')' then
        if inner.head? = some ')' then throw { span := c.place.span, cause := .nothingToRepeat }
        let after := after.pass
        let verbose := verboseAfter settings after.verbose
        return (s.push (.settings ⟨span.start, after.place⟩ settings), { after with verbose })
      else return s.enter span false settings after.pass
    | none => return s.enter span true [] c

/-- Close the innermost group. -/
def ParseState.closeGroup (s : ParseState) (c : Cursor) : Except Fault (ParseState × Cursor) :=
  match s.groups with
  | [] => c.refuseChar .groupUnopened
  | group :: groups =>
    let after := c.pass
    let tree := s.tree c.place
    let item := Tree.group ⟨group.span.start, after.place⟩ group.captures group.settings tree
    .ok
      ({ s with
          items := item :: group.outerItems
          start := group.outerStart
          branches := group.outerBranches
          branchStart := group.outerBranchStart
          groups }, { after with verbose := group.outerVerbose })

/-- The part that a repetition repeats, and the parts before it. -/
def ParseState.repeated? (s : ParseState) : Option (Tree × List Tree) :=
  match s.items with
  | [] => none
  | .empty _ :: _ => none
  | .settings .. :: _ => none
  | item :: items => some (item, items)

/-- Repeat the last part; a question mark after the count does not matter for what is found. -/
def ParseState.repeat (s : ParseState) (c : Cursor) (least : Nat) (most : Option Nat) :
    Except Fault (ParseState × Cursor) :=
  match s.repeated? with
  | none => c.refuseHere .nothingToRepeat
  | some (item, items) =>
    let c := c.pass
    let c := if c.head? = some '?' then c.pass else c
    let tree := Tree.repetition ⟨item.span.start, c.place⟩ least most item
    .ok ({ s with items := tree :: items }, c)

/-- The digits of a number, between which blanks do not count in verbose mode. -/
def readDigits (digits : List Char) : Nat → Cursor → List Char × Cursor
  | 0, c => (digits.reverse, c)
  | fuel + 1, c =>
    match c.head? with
    | some x => if x.isDigit then readDigits (x :: digits) fuel c.next else (digits.reverse, c)
    | none => (digits.reverse, c)

/-- Pass blanks, in any mode. -/
def Cursor.passBlanks (c : Cursor) : Nat → Cursor
  | 0 => c
  | fuel + 1 =>
    match c.head? with
    | some x => if Text.isBlank x then c.pass.passBlanks fuel else c
    | none => c

/-- The number that comes next, or the fault that there is none; and what remains in any case. -/
def readCount (c : Cursor) : Except Fault Nat × Cursor :=
  let c := c.passBlanks c.rest.length
  let start := c.place
  let (digits, c) := readDigits [] c.rest.length c
  let span := c.since start
  let after := (c.passBlanks c.rest.length).skipBlanks
  let n := Nat.ofDigitChars 10 digits 0
  if digits.isEmpty then (.error { span, cause := .countEmpty }, after)
  else if n < Nat.pow 2 32 then (.ok n, after)
  else (.error { span, cause := .decimalInvalid }, after)

/-- The bounds of a counted repetition, after its opening brace. -/
def readBounds (start : Place) (c : Cursor) : Except Fault ((Nat × Option Nat) × Cursor) := do
  let unclosed (c : Cursor) : Except Fault ((Nat × Option Nat) × Cursor) :=
    c.refuse start .countUnclosed
  if c.atEnd then unclosed c
  else
    let (least, c) := readCount c
    if c.atEnd then unclosed c
    else if c.head? = some ',' then
      let c := c.next
      if c.atEnd then unclosed c
      else if c.head? = some '\x7d' then return ((← least, none), c)
      else
        let least ← least
        let (most, c) := readCount c
        return ((least, some (← most)), c)
    else
      let count ← least
      return ((count, some count), c)

/-- Repeat the last part as often as a count in braces says. -/
def ParseState.repeatCounted (s : ParseState) (c : Cursor) :
    Except Fault (ParseState × Cursor) := do
  match s.repeated? with
  | none => c.refuseHere .nothingToRepeat
  | some (item, items) =>
    let start := c.place
    let ((least, most), c) ← readBounds start c.next
    if c.head? ≠ some '\x7d' then c.refuse start .countUnclosed
    let c := c.next
    let c := if c.head? = some '?' then c.pass else c
    if let some most := most then
      if most < least then c.refuse start .countRange
    let tree := Tree.repetition ⟨item.span.start, c.place⟩ least most item
    return ({ s with items := tree :: items }, c)

/-- One part of a pattern. -/
def ParseState.step (s : ParseState) (x : Char) (c : Cursor) :
    Except Fault (ParseState × Cursor) := do
  match x with
  | '(' => s.openGroup c
  | ')' => s.closeGroup c
  | '|' => return s.nextBranch c
  | '[' => let (tree, c) ← readBracketed c; return (s.push tree, c)
  | '?' => s.repeat c 0 (some 1)
  | '*' => s.repeat c 0 none
  | '+' => s.repeat c 1 none
  | '\x7b' => s.repeatCounted c
  | '\\' => let (tree, c) ← readEscape c; return (s.push tree, c)
  | '.' => return (s.push (.dot c.charSpan), c.pass)
  | '^' => return (s.push (.assertion c.charSpan .lineStart), c.pass)
  | '$' => return (s.push (.assertion c.charSpan .lineEnd), c.pass)
  | _ => return (s.push (.literal ⟨c.charSpan, x, false⟩), c.pass)

/-- The parts of a pattern to its end. `fuel` bounds the number of characters. -/
def ParseState.run : Nat → ParseState → Cursor → Except Fault Tree
  | fuel, s, c =>
    let c := c.skipBlanks
    match c.head?, fuel with
    | some x, fuel + 1 => do
      let (s, c) ← s.step x c
      ParseState.run fuel s c
    | _, _ =>
      match s.groups with
      | group :: _ => .error { span := group.span, cause := .groupUnclosed }
      | [] => .ok (s.tree c.place)

/-- The tree of a pattern. -/
def Tree.ofPattern (pattern : List Char) : Except Fault Tree := do
  let c := Cursor.ofPattern pattern
  let s : ParseState :=
    { items := [], start := c.place, branches := [], branchStart := c.place, groups := []
      names := [] }
  let tree ← s.run pattern.length c
  match tree.tooDeep? depthLimit with
  | some span => throw { span, cause := .tooDeep depthLimit }
  | none => return tree

end Folio.Pattern
