import Folio.Pattern.Cursor
import Folio.Pattern.Tree
import Folio.Text.CodePoints

/-!
# Escapes of a pattern

A backslash makes the next characters a literal, a class, or a condition. Every ASCII character that
is no letter and no digit may be escaped; of the letters, those that have a meaning.
-/

namespace Folio.Pattern

/-- What a part of a pattern means, and what remains after it. -/
abbrev Reading (α : Type) := Except Fault (α × Cursor)

/-- The character of a hexadecimal number. -/
def hexChar? (digits : List Char) : Option Char :=
  let n := Text.hexNumber digits
  if h : n.isValidChar then some (Char.ofNatAux n h) else none

/-- The literal of a number, written from `first` to `last`. -/
def hexLiteral (c : Cursor) (start first last : Place) (digits : List Char) (asByte : Bool) :
    Reading Tree :=
  match hexChar? digits with
  | some x => .ok (.literal ⟨c.since start, x, asByte⟩, c)
  | none => .error { span := ⟨first, last⟩, cause := .hexInvalid }

/-- A fixed count of hexadecimal digits. -/
def hexFixed (start first : Place) (asByte : Bool) (digits : List Char) :
    Nat → Cursor → Reading Tree
  | 0, c => hexLiteral c start first c.place digits.reverse asByte
  | count + 1, c =>
    match c.head? with
    | none => c.refuseHere .escapeCut
    | some x =>
      if (Text.hexDigit? x).isSome then
        hexFixed start first asByte (x :: digits) count c.next
      else c.refuseChar .hexDigit

/-- Hexadecimal digits up to a closing brace. `fuel` bounds the number of characters. -/
def hexBraced (start brace first : Place) (digits : List Char) : Nat → Cursor → Reading Tree
  | 0, c => c.refuse brace .escapeCut
  | fuel + 1, c =>
    match c.head? with
    | none => c.refuse brace .escapeCut
    | some x =>
      if x = '\x7d' then
        if digits.isEmpty then c.next.refuse brace .hexEmpty
        else hexLiteral c.next start first c.place digits.reverse false
      else if (Text.hexDigit? x).isSome then
        hexBraced start brace first (x :: digits) fuel c.next
      else c.refuseChar .hexDigit

/-- A character by its number: after `x` two digits, after `u` four, after `U` eight, or as many as
there are between braces. -/
def hexEscape (start : Place) (count : Nat) (c : Cursor) : Reading Tree :=
  let c := c.next
  match c.head? with
  | none => c.refuseHere .escapeCut
  | some x =>
    if x = '\x7b' then
      hexBraced start c.place c.pass.place [] c.rest.length c.next
    else hexFixed start c.place (count = 2) [] count c

/-- The characters up to a closing brace. `fuel` bounds their number. -/
def bracedName (name : List Char) : Nat → Cursor → Reading (List Char)
  | 0, c => c.refuseHere .escapeCut
  | fuel + 1, c =>
    match c.head? with
    | none => c.refuseHere .escapeCut
    | some x =>
      if x = '\x7d' then .ok (name.reverse, c.pass) else bracedName (x :: name) fuel c.next

/-- The parts of a text before and after the first occurrence of a separator. -/
def splitOnce (separator : List Char) : List Char → Option (List Char × List Char)
  | [] => none
  | x :: rest =>
    match Text.dropStart? separator (x :: rest) with
    | some after => some ([], after)
    | none => (splitOnce separator rest).map fun (before, after) => (x :: before, after)

/-- The property that a text in braces names, and whether all others are meant. -/
def PropertyName.ofText (text : List Char) : PropertyName × Bool :=
  match splitOnce ['!', '='] text with
  | some (name, value) => (.valued name value, true)
  | none =>
    match splitOnce [':'] text <|> splitOnce ['='] text with
    | some (name, value) => (.valued name value, false)
    | none => (.plain text, false)

/-- A class by a property: one letter, or a name in braces. -/
def propertyEscape (start : Place) (negated : Bool) (c : Cursor) :
    Except Fault (Tree × Cursor) := do
  let c := c.next
  match c.head? with
  | none => c.refuseHere .escapeCut
  | some x =>
    if x = '\x7b' then
      let (text, c) ← bracedName [] c.rest.length c.next
      let (name, others) := PropertyName.ofText text
      return (.property (c.since start) name (negated != others), c)
    else if x = '\\' then c.refuseChar .propertyInvalid
    else
      let c := c.next
      return (.property (c.since start) (.plain [x]) negated, c)

/-- A character of the name of a word boundary. -/
def isBoundaryChar (c : Char) : Bool :=
  ('A' ≤ c && c ≤ 'Z') || ('a' ≤ c && c ≤ 'z') || c = '-'

/-- The longest name of a word boundary. `fuel` bounds its length. -/
def boundaryName (name : List Char) : Nat → Cursor → List Char × Cursor
  | 0, c => (name.reverse, c)
  | fuel + 1, c =>
    match c.head? with
    | none => (name.reverse, c)
    | some x =>
      if isBoundaryChar x then boundaryName (x :: name) fuel c.next else (name.reverse, c)

/-- The condition that a name of a word boundary stands for. -/
def boundaryNamed? (name : List Char) : Option Assertion :=
  if name = "start".toList then some .wordStart
  else if name = "end".toList then some .wordEnd
  else if name = "start-half".toList then some .wordStartHalf
  else if name = "end-half".toList then some .wordEndHalf
  else none

/-- A word boundary, which may have a name in braces. Braces that hold no name are a repetition. -/
def boundaryEscape (start : Place) (c : Cursor) : Reading Tree :=
  let plain : Reading Tree := .ok (.assertion (c.since start) .boundary, c)
  if c.head? = some '\x7b' then
    let inner := c.next
    match inner.head? with
    | none => inner.refuse start .boundaryCut
    | some x =>
      if isBoundaryChar x then
        let (name, after) := boundaryName [] inner.rest.length inner
        if after.head? = some '\x7d' then
          match boundaryNamed? name with
          | some kind => .ok (.assertion (after.pass.since start) kind, after.pass)
          | none => after.refuse inner.place .boundaryUnknown
        else after.refuse c.place .boundaryUnclosed
      else plain
  else plain

/-- The control character that an escaped letter stands for. -/
def controlEscape? : Char → Option Char
  | 'a' => some '\x07'
  | 'f' => some '\x0c'
  | 't' => some '\t'
  | 'n' => some '\n'
  | 'r' => some '\r'
  | 'v' => some '\x0b'
  | _ => none

/-- The class that an escaped letter stands for, and whether it is negated. -/
def shorthand? : Char → Option (Shorthand × Bool)
  | 'd' => some (.digit, false)
  | 'D' => some (.digit, true)
  | 's' => some (.space, false)
  | 'S' => some (.space, true)
  | 'w' => some (.word, false)
  | 'W' => some (.word, true)
  | _ => none

/-- The condition that an escaped character stands for. -/
def assertion? : Char → Option Assertion
  | 'A' => some .textStart
  | 'z' => some .textEnd
  | 'B' => some .noBoundary
  | '<' => some .wordStart
  | '>' => some .wordEnd
  | _ => none

/-- How many digits the number of a character has after an escaped letter. -/
def hexCount? : Char → Option Nat
  | 'x' => some 2
  | 'u' => some 4
  | 'U' => some 8
  | _ => none

/-- What an escape means. -/
def readEscape (c : Cursor) : Reading Tree :=
  let start := c.place
  let c := c.pass
  match c.head? with
  | none => c.refuse start .escapeCut
  | some x =>
    let after := c.pass
    if '0' ≤ x && x ≤ '9' then after.refuse start .backreference
    else if let some count := hexCount? x then hexEscape start count c
    else if x = 'p' || x = 'P' then propertyEscape start (x = 'P') c
    else if let some (kind, negated) := shorthand? x then
      .ok (.shorthand (after.since start) kind negated, after)
    else if let some kind := assertion? x then .ok (.assertion (after.since start) kind, after)
    else if x.toNat < 0x80 && !x.isAlphanum then
      .ok (.literal ⟨after.since start, x, false⟩, after)
    else if let some control := controlEscape? x then
      .ok (.literal ⟨after.since start, control, false⟩, after)
    else if x = 'b' then boundaryEscape start after
    else after.refuse start .escapeUnknown

end Folio.Pattern
