import Folio.Text.CodePoints

/-!
# Sets of characters

A set is a list of ranges in ascending order with gaps between them. Union, complement and the
operations made from them bring their results into this form.
-/

namespace Folio.Text

/-- A set of characters: ascending ranges of code points with gaps between them. -/
structure CharSet where
  ranges : List CodeRange
  deriving Repr, DecidableEq, Inhabited

namespace CharSet

/-- The greatest code point. -/
def maxCode : Nat := 0x10FFFF

/-- Join a range to the ranges after it where they overlap or touch. -/
def joinRanges (r : CodeRange) : List CodeRange → List CodeRange
  | [] => [r]
  | s :: rest =>
    if s.lo ≤ r.hi + 1 then joinRanges ⟨r.lo, max r.hi s.hi⟩ rest else r :: joinRanges s rest

/-- Put a range in front of the first of some ranges that begins no earlier. -/
def insertRange (r : CodeRange) : List CodeRange → List CodeRange
  | [] => [r]
  | s :: rest => if r.lo ≤ s.lo then r :: s :: rest else s :: insertRange r rest

/-- Ranges in ascending order. -/
def sortRanges : List CodeRange → List CodeRange
  | [] => []
  | r :: rest => insertRange r (sortRanges rest)

/-- The set of all code points in some ranges, in any order. -/
def ofRanges (ranges : List CodeRange) : CharSet :=
  match sortRanges ranges with
  | [] => ⟨[]⟩
  | r :: rest => ⟨joinRanges r rest⟩

/-- The set that a table's text describes. -/
def ofTable (table : String) : CharSet := ofRanges (CodePoints.tableRanges table)

/-- The set of one code point. -/
def single (n : Nat) : CharSet := ⟨[⟨n, n⟩]⟩

/-- No characters. -/
def empty : CharSet := ⟨[]⟩

/-- All characters. -/
def all : CharSet := ⟨[⟨0, maxCode⟩]⟩

/-- The gaps between ranges, from a code point on. -/
def gaps (start : Nat) : List CodeRange → List CodeRange
  | [] => if start ≤ maxCode then [⟨start, maxCode⟩] else []
  | r :: rest =>
    if start < r.lo then ⟨start, r.lo - 1⟩ :: gaps (r.hi + 1) rest else gaps (r.hi + 1) rest

/-- The characters that are not in a set. -/
def compl (s : CharSet) : CharSet := ⟨gaps 0 s.ranges⟩

/-- The characters in one of two sets. -/
def union (s t : CharSet) : CharSet := ofRanges (s.ranges ++ t.ranges)

/-- The characters in one of several sets. -/
def unions (sets : List CharSet) : CharSet := ofRanges (sets.flatMap CharSet.ranges)

/-- The characters in both of two sets. -/
def inter (s t : CharSet) : CharSet := (s.compl.union t.compl).compl

/-- The characters of one set that are not in another. -/
def diff (s t : CharSet) : CharSet := s.inter t.compl

/-- The characters in exactly one of two sets. -/
def symmDiff (s t : CharSet) : CharSet := (s.union t).diff (s.inter t)

/-- Whether a code point is in a set. -/
def containsCode (s : CharSet) (n : Nat) : Bool := s.ranges.any fun r => r.lo ≤ n && n ≤ r.hi

/-- Whether a character is in a set. -/
def contains (s : CharSet) (c : Char) : Bool := s.containsCode c.toNat

/-- The set for fast search. -/
def toCodePoints (s : CharSet) : CodePoints := ⟨s.ranges.toArray⟩

end CharSet

end Folio.Text
