/-!
# Sets of code points

A set of code points is a sorted array of disjoint closed ranges, written in tables as
hexadecimal numbers: `9-D 20 85`; in `100~10E` every second code point counts. Membership is a
binary search.
-/

namespace Folio.Text

/-- The value of a hexadecimal digit. -/
def hexDigit? (c : Char) : Option Nat :=
  if '0' ≤ c && c ≤ '9' then some (c.toNat - 48)
  else if 'a' ≤ c && c ≤ 'f' then some (c.toNat - 87)
  else if 'A' ≤ c && c ≤ 'F' then some (c.toNat - 55)
  else none

/-- The number written by hexadecimal digits; other characters count as nothing. -/
def hexNumber (s : List Char) : Nat :=
  s.foldl (fun n c => match hexDigit? c with | some d => 16 * n + d | none => n) 0

/-- A closed range of code points. -/
structure CodeRange where
  lo : Nat
  hi : Nat
  deriving Repr, DecidableEq, Inhabited

/-- Sorted disjoint ranges of code points. -/
structure CodePoints where
  ranges : Array CodeRange
  deriving Repr, Inhabited

namespace CodePoints

/-- Binary search among the ranges from index `lo` up to index `hi`, exclusive. -/
def search (ranges : Array CodeRange) (n lo hi : Nat) : Bool :=
  if lo < hi then
    let mid := (lo + hi) / 2
    match ranges[mid]? with
    | none => false
    | some r =>
      if n < r.lo then search ranges n lo mid
      else if r.hi < n then search ranges n (mid + 1) hi
      else true
  else false
termination_by hi - lo

/-- Whether a code point is in the set. -/
def containsCode (s : CodePoints) (n : Nat) : Bool := search s.ranges n 0 s.ranges.size

/-- Whether a character is in the set. -/
def contains (s : CodePoints) (c : Char) : Bool := s.containsCode c.toNat

/-- The ranges of one word of a table: a number, or two joined by a hyphen or a tilde. -/
def wordRanges (word : List Char) : List CodeRange :=
  let lo := hexNumber (word.takeWhile fun c => c ≠ '-' && c ≠ '~')
  match word.dropWhile fun c => c ≠ '-' && c ≠ '~' with
  | [] => [⟨lo, lo⟩]
  | '-' :: hi => [⟨lo, hexNumber hi⟩]
  | _ :: hi =>
    (List.range ((hexNumber hi - lo) / 2 + 1)).map fun i => ⟨lo + 2 * i, lo + 2 * i⟩

/-- Words with spaces or line feeds between them. -/
def words (s : List Char) (current : List Char) : List (List Char) :=
  match s with
  | [] => if current.isEmpty then [] else [current.reverse]
  | c :: rest =>
    if c = ' ' || c = '\n' then
      if current.isEmpty then words rest [] else current.reverse :: words rest []
    else words rest (c :: current)

/-- The ranges that a table's text describes. -/
def tableRanges (table : String) : List CodeRange := (words table.toList []).flatMap wordRanges

/-- The set that a table's text describes. -/
def ofTable (table : String) : CodePoints := ⟨(tableRanges table).toArray⟩

end CodePoints

end Folio.Text
