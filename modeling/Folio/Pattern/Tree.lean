import Folio.Pattern.Fault

/-!
# Syntax trees of patterns

A tree keeps the parts of the pattern that faults found later may point at.
-/

namespace Folio.Pattern

/-- A setting that changes how the pattern after it is read. -/
inductive Flag where
  | ignoreCase
  | multiLine
  | dotAll
  | swapGreed
  | unicode
  | crlf
  | verbose
  deriving Repr, DecidableEq

/-- A setting switched on or off. -/
structure Setting where
  flag : Flag
  on : Bool
  deriving Repr, DecidableEq

/-- A condition on a place in a text. -/
inductive Assertion where
  | lineStart
  | lineEnd
  | textStart
  | textEnd
  | boundary
  | noBoundary
  | wordStart
  | wordEnd
  | wordStartHalf
  | wordEndHalf
  deriving Repr, DecidableEq

/-- One character. It may be written as a byte, by two hexadecimal digits. -/
structure Literal where
  span : Span
  char : Char
  asByte : Bool
  deriving Repr, DecidableEq

/-- The classes with a letter of their own. -/
inductive Shorthand where
  | digit
  | space
  | word
  deriving Repr, DecidableEq

/-- A class of characters by the name of a property, or by a property and its value. -/
inductive PropertyName where
  | plain (name : List Char)
  | valued (name value : List Char)
  deriving Repr, DecidableEq

/-- The classes of ASCII characters that have a name. -/
inductive AsciiClass where
  | alnum
  | alpha
  | ascii
  | blank
  | cntrl
  | digit
  | graph
  | lower
  | print
  | punct
  | space
  | upper
  | word
  | xdigit
  deriving Repr, DecidableEq

/-- An operation on two classes. -/
inductive ClassOp where
  | intersection
  | difference
  | symmetricDifference
  deriving Repr, DecidableEq

/-- What stands between the brackets of a class. -/
inductive ClassSet where
  | empty (span : Span)
  | literal (l : Literal)
  | range (span : Span) (lo hi : Literal)
  | ascii (span : Span) (kind : AsciiClass) (negated : Bool)
  | shorthand (span : Span) (kind : Shorthand) (negated : Bool)
  | property (span : Span) (name : PropertyName) (negated : Bool)
  | bracketed (span : Span) (negated : Bool) (set : ClassSet)
  | union (span : Span) (items : List ClassSet)
  | binary (span : Span) (op : ClassOp) (left right : ClassSet)
  deriving Repr

/-- The part of the pattern that a set is written in. -/
def ClassSet.span : ClassSet → Span
  | .empty s => s
  | .literal l => l.span
  | .range s .. => s
  | .ascii s .. => s
  | .shorthand s .. => s
  | .property s .. => s
  | .bracketed s .. => s
  | .union s _ => s
  | .binary s .. => s

/-- A pattern. -/
inductive Tree where
  | empty (span : Span)
  | settings (span : Span) (items : List Setting)
  | literal (l : Literal)
  | dot (span : Span)
  | assertion (span : Span) (kind : Assertion)
  | shorthand (span : Span) (kind : Shorthand) (negated : Bool)
  | property (span : Span) (name : PropertyName) (negated : Bool)
  | bracketed (span : Span) (negated : Bool) (set : ClassSet)
  | repetition (span : Span) (least : Nat) (most : Option Nat) (body : Tree)
  | group (span : Span) (captures : Bool) (items : List Setting) (body : Tree)
  | concat (span : Span) (items : List Tree)
  | alternation (span : Span) (items : List Tree)
  deriving Repr

/-- The part of the pattern that a tree is written in. -/
def Tree.span : Tree → Span
  | .empty s => s
  | .settings s _ => s
  | .literal l => l.span
  | .dot s => s
  | .assertion s _ => s
  | .shorthand s .. => s
  | .property s .. => s
  | .bracketed s .. => s
  | .repetition s .. => s
  | .group s .. => s
  | .concat s _ => s
  | .alternation s _ => s

/-- How deep groups, classes and repetitions may be nested. -/
def depthLimit : Nat := 250

mutual

/-- The first part of a set that is too deep, when `room` more levels are allowed. -/
def ClassSet.tooDeep? (room : Nat) : ClassSet → Option Span
  | .bracketed s _ set => if room = 0 then some s else set.tooDeep? (room - 1)
  | .union s items => if room = 0 then some s else ClassSet.anyTooDeep? (room - 1) items
  | .binary s _ left right =>
    if room = 0 then some s else (left.tooDeep? (room - 1)).or (right.tooDeep? (room - 1))
  | _ => none

/-- The first part of some sets that is too deep. -/
def ClassSet.anyTooDeep? (room : Nat) : List ClassSet → Option Span
  | [] => none
  | set :: rest => (set.tooDeep? room).or (ClassSet.anyTooDeep? room rest)

end

mutual

/-- The first part of a pattern that is too deep, when `room` more levels are allowed. -/
def Tree.tooDeep? (room : Nat) : Tree → Option Span
  | .bracketed s _ set => if room = 0 then some s else set.tooDeep? (room - 1)
  | .repetition s _ _ body => if room = 0 then some s else body.tooDeep? (room - 1)
  | .group s _ _ body => if room = 0 then some s else body.tooDeep? (room - 1)
  | .concat s items => if room = 0 then some s else Tree.anyTooDeep? (room - 1) items
  | .alternation s items => if room = 0 then some s else Tree.anyTooDeep? (room - 1) items
  | _ => none

/-- The first part of some patterns that is too deep. -/
def Tree.anyTooDeep? (room : Nat) : List Tree → Option Span
  | [] => none
  | tree :: rest => (tree.tooDeep? room).or (Tree.anyTooDeep? room rest)

end

end Folio.Pattern
