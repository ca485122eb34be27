import Folio.Pattern.Property
import Folio.Pattern.Regex
import Folio.Text.CaseOrbit
import Folio.Text.Word

/-!
# What patterns mean

A pattern is read in a mode, the settings in force. Its parts change the mode for the parts after
them, up to the end of the group they are in. The result is a regular expression.
-/

namespace Folio.Pattern

open Folio.Text (CharSet)

/-- The settings in force at some part of a pattern. -/
structure Mode where
  ignoreCase : Bool
  multiLine : Bool
  dotAll : Bool
  unicode : Bool
  crlf : Bool
  deriving Repr, DecidableEq

namespace Mode

/-- The mode of a search: the case of letters does not count, and lines begin and end anywhere. -/
def search : Mode :=
  { ignoreCase := true, multiLine := true, dotAll := false, unicode := true, crlf := false }

/-- The mode after a setting. Which of two matches is found does not matter here. -/
def set (m : Mode) (s : Setting) : Mode :=
  match s.flag with
  | .ignoreCase => { m with ignoreCase := s.on }
  | .multiLine => { m with multiLine := s.on }
  | .dotAll => { m with dotAll := s.on }
  | .unicode => { m with unicode := s.on }
  | .crlf => { m with crlf := s.on }
  | .swapGreed => m
  | .verbose => m

/-- A set with its other cases, if the case of letters does not count. -/
def fold (m : Mode) (set : CharSet) : CharSet :=
  if m.ignoreCase then (if m.unicode then set.closeCase else set.closeAsciiCase) else set

/-- A set with its other cases, or all others. Without Unicode, all others would be bytes that are
no characters. -/
def foldAndNegate (m : Mode) (span : Span) (negated : Bool) (set : CharSet) :
    Except Fault CharSet :=
  let set := m.fold set
  if !negated then .ok set
  else if m.unicode then .ok set.compl
  else .error { span, cause := .invalidText }

/-- The characters of a shorthand. -/
def shorthand (m : Mode) (span : Span) (kind : Shorthand) (negated : Bool) :
    Except Fault CharSet :=
  if m.unicode then
    let set := match kind with
      | .digit => Text.Category.decimalNumber.set
      | .space => Text.Trait.whiteSpace.set
      | .word => Text.wordSet
    .ok (if negated then set.compl else set)
  else if negated then .error { span, cause := .invalidText }
  else
    .ok (match kind with
      | .digit => .ofTable "30-39"
      | .space => .ofTable "9-D 20"
      | .word => .ofTable "30-39 41-5A 5F 61-7A")

/-- The characters of a class by property. -/
def property (m : Mode) (span : Span) (name : PropertyName) (negated : Bool) :
    Except Fault CharSet :=
  if m.unicode then
    match name.set with
    | .ok set => m.foldAndNegate span negated set
    | .error cause => .error { span, cause }
  else .error { span, cause := .wideText }

/-- A character that stands for itself. Without Unicode a byte must be a character. -/
def literal (m : Mode) (l : Literal) : Except Fault Char :=
  if !m.unicode && l.asByte && 0x80 ≤ l.char.toNat then
    .error { span := l.span, cause := .invalidText }
  else .ok l.char

/-- A character in a class. Without Unicode it must be an ASCII character. -/
def classLiteral (m : Mode) (l : Literal) : Except Fault Nat := do
  let c ← m.literal l
  if !m.unicode && 0x80 ≤ c.toNat then throw { span := l.span, cause := .wideText }
  return c.toNat

end Mode

/-- The characters of an ASCII class. -/
def AsciiClass.set : AsciiClass → CharSet
  | .alnum => .ofTable "30-39 41-5A 61-7A"
  | .alpha => .ofTable "41-5A 61-7A"
  | .ascii => .ofTable "0-7F"
  | .blank => .ofTable "9 20"
  | .cntrl => .ofTable "0-1F 7F"
  | .digit => .ofTable "30-39"
  | .graph => .ofTable "21-7E"
  | .lower => .ofTable "61-7A"
  | .print => .ofTable "20-7E"
  | .punct => .ofTable "21-2F 3A-40 5B-60 7B-7E"
  | .space => .ofTable "9-D 20"
  | .upper => .ofTable "41-5A"
  | .word => .ofTable "30-39 41-5A 5F 61-7A"
  | .xdigit => .ofTable "30-39 41-46 61-66"

/-- The result of an operation on two sets. -/
def ClassOp.apply : ClassOp → CharSet → CharSet → CharSet
  | .intersection => CharSet.inter
  | .difference => CharSet.diff
  | .symmetricDifference => CharSet.symmDiff

mutual

/-- The characters of a set in some mode. -/
def ClassSet.chars (m : Mode) : ClassSet → Except Fault CharSet
  | .empty _ => .ok .empty
  | .literal l => do return .single (← m.classLiteral l)
  | .range _ lo hi => do return ⟨[⟨← m.classLiteral lo, ← m.classLiteral hi⟩]⟩
  | .ascii span kind negated => m.foldAndNegate span negated kind.set
  | .shorthand span kind negated => m.shorthand span kind negated
  | .property span name negated => m.property span name negated
  | .bracketed span negated set => do m.foldAndNegate span negated (← set.chars m)
  | .union _ items => do return .unions (← ClassSet.listChars m items)
  | .binary _ op left right => do
    let left ← left.chars m
    let right ← right.chars m
    return op.apply (m.fold left) (m.fold right)

/-- The characters of some sets. -/
def ClassSet.listChars (m : Mode) : List ClassSet → Except Fault (List CharSet)
  | [] => .ok []
  | set :: rest => do return (← set.chars m) :: (← ClassSet.listChars m rest)

end

namespace Mode

/-- A character that stands for itself, in all its cases if they do not count. -/
def char (m : Mode) (c : Char) : CharSet :=
  if m.ignoreCase && (m.unicode || c.toNat < 128) then
    if m.unicode then .ofOrbit c.toNat else (CharSet.single c.toNat).closeAsciiCase
  else .single c.toNat

/-- Any character, except the ends of lines unless the mode says so. -/
def dot (m : Mode) (span : Span) : Except Fault CharSet :=
  if !m.unicode then .error { span, cause := .invalidText }
  else if m.dotAll then .ok .all
  else if m.crlf then .ok (CharSet.ofTable "A D").compl
  else .ok (CharSet.single 0xA).compl

/-- What a condition means. -/
def look (m : Mode) : Assertion → Look
  | .lineStart => if m.multiLine then .lineStart m.crlf else .textStart
  | .lineEnd => if m.multiLine then .lineEnd m.crlf else .textEnd
  | .textStart => .textStart
  | .textEnd => .textEnd
  | .boundary => .boundary m.unicode
  | .noBoundary => .noBoundary m.unicode
  | .wordStart => .wordStart m.unicode
  | .wordEnd => .wordEnd m.unicode
  | .wordStartHalf => .wordStartHalf m.unicode
  | .wordEndHalf => .wordEndHalf m.unicode

end Mode

mutual

/-- What a pattern means in some mode, and the mode after it. -/
def Tree.regex (m : Mode) : Tree → Except Fault (Regex × Mode)
  | .empty _ => .ok (.empty, m)
  | .settings _ items => .ok (.empty, items.foldl Mode.set m)
  | .literal l => do return (.ofSet (m.char (← m.literal l)), m)
  | .dot span => do return (.ofSet (← m.dot span), m)
  | .assertion _ kind => .ok (.look (m.look kind), m)
  | .shorthand span kind negated => do return (.ofSet (← m.shorthand span kind negated), m)
  | .property span name negated => do return (.ofSet (← m.property span name negated), m)
  | .bracketed span negated set => do
    return (.ofSet (← m.foldAndNegate span negated (← set.chars m)), m)
  | .repetition _ least most body => do
    let (r, m) ← body.regex m
    return (r.times least most, m)
  | .group _ captures items body => do
    let (r, _) ← body.regex (items.foldl Mode.set m)
    return (if captures then .group r else r, m)
  | .concat _ items => do
    let (rs, m) ← Tree.listRegex m items
    return (.concat rs, m)
  | .alternation _ items => do
    let (rs, m) ← Tree.listRegex m items
    return (.oneOf rs, m)

/-- What the parts of a pattern mean, each in the mode after the ones before it. -/
def Tree.listRegex (m : Mode) : List Tree → Except Fault (List Regex × Mode)
  | [] => .ok ([], m)
  | tree :: rest => do
    let (r, m) ← tree.regex m
    let (rs, m) ← Tree.listRegex m rest
    return (r :: rs, m)

end

end Folio.Pattern
