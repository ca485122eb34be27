import Folio.Pattern.Fault
import Folio.Text.Blank

/-!
# Reading a pattern

A cursor holds what remains of a pattern, and its place. In verbose mode blanks and comments
between the parts of a pattern do not count.
-/

namespace Folio.Pattern

/-- What remains of a pattern. -/
structure Cursor where
  rest : List Char
  place : Place
  verbose : Bool
  deriving Repr, DecidableEq

namespace Cursor

/-- The whole of a pattern. -/
def ofPattern (pattern : List Char) : Cursor := ⟨pattern, ⟨1, 1⟩, false⟩

/-- The remaining text and the place after blanks and comments. -/
def pastBlanks (inComment : Bool) : List Char → Place → List Char × Place
  | [], p => ([], p)
  | c :: rest, p =>
    if inComment then pastBlanks (c ≠ '\n') rest (p.next c)
    else if Text.isBlank c then pastBlanks false rest (p.next c)
    else if c = '#' then pastBlanks true rest (p.next c)
    else (c :: rest, p)

/-- Skip blanks and comments, if the mode is verbose. -/
def skipBlanks (c : Cursor) : Cursor :=
  if c.verbose then
    let (rest, place) := pastBlanks false c.rest c.place
    { c with rest, place }
  else c

/-- Pass one character. -/
def pass (c : Cursor) : Cursor :=
  match c.rest with
  | [] => c
  | x :: rest => { c with rest, place := c.place.next x }

/-- Pass one character and what does not count after it. -/
def next (c : Cursor) : Cursor := c.pass.skipBlanks

/-- The first remaining character. -/
def head? (c : Cursor) : Option Char := c.rest.head?

/-- Whether nothing remains. -/
def atEnd (c : Cursor) : Bool := c.rest.isEmpty

/-- The part from an earlier place to here. -/
def since (c : Cursor) (start : Place) : Span := ⟨start, c.place⟩

/-- The next character's part of the pattern. -/
def charSpan (c : Cursor) : Span := ⟨c.place, c.pass.place⟩

/-- The cursor after a text, if that text comes next. -/
def after? (c : Cursor) (text : List Char) : Option Cursor :=
  match text with
  | [] => some c
  | x :: more => if c.head? = some x then c.pass.after? more else none

/-- The first character after the next one. -/
def second? (c : Cursor) : Option Char := c.rest[1]?

/-- The first character that counts after the next one. Of a comment, the hash does not count, and
if only blanks follow, the first of them counts. -/
def secondPart? (c : Cursor) : Option Char :=
  if c.verbose then
    let rec counting (hashSeen : Bool) : List Char → Option Char
      | [] => none
      | x :: rest =>
        if Text.isBlank x then counting hashSeen rest
        else if x = '#' && !hashSeen then counting true rest
        else some x
    (counting false (c.rest.drop 1)).or c.second?
  else c.second?

/-- Refuse the pattern from an earlier place to here. -/
def refuse {α : Type} (c : Cursor) (start : Place) (cause : Cause) : Except Fault α :=
  .error { span := c.since start, cause }

/-- Refuse the pattern at this place. -/
def refuseHere {α : Type} (c : Cursor) (cause : Cause) : Except Fault α := c.refuse c.place cause

/-- Refuse the next character. -/
def refuseChar {α : Type} (c : Cursor) (cause : Cause) : Except Fault α :=
  .error { span := c.charSpan, cause }

end Cursor

end Folio.Pattern
