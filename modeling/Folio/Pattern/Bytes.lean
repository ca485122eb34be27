import Folio.Text.CharSet

/-!
# The bytes of characters

A range of code points is cut into parts whose characters have as many bytes each, every one of
them running through a range of its own: such a part is a sequence of byte ranges.
-/

namespace Folio.Pattern

open Folio.Text (CharSet CodeRange)

/-- A range of bytes. -/
abbrev ByteRange := Nat × Nat

/-- The greatest code point with as many bytes. -/
def greatestOfWidth : Nat → Nat
  | 1 => 0x7F
  | 2 => 0x7FF
  | 3 => 0xFFFF
  | _ => CharSet.maxCode

/-- The bytes of a code point. -/
def codeBytes (n : Nat) : List Nat :=
  if n ≤ 0x7F then [n]
  else if n ≤ 0x7FF then [0xC0 + n / 0x40, 0x80 + n % 0x40]
  else if n ≤ 0xFFFF then [0xE0 + n / 0x1000, 0x80 + n / 0x40 % 0x40, 0x80 + n % 0x40]
  else
    [0xF0 + n / 0x40000, 0x80 + n / 0x1000 % 0x40, 0x80 + n / 0x40 % 0x40, 0x80 + n % 0x40]

/-- Where to cut a range so that its parts come nearer to one range for each byte: at the
surrogates, where the width changes, and where a lower byte does not run through all its values. -/
def cutPoint? (lo hi : Nat) : Option Nat :=
  if lo < 0xE000 && 0xD7FF < hi then some 0xD7FF
  else
    let width := [1, 2, 3].find? fun w => lo ≤ greatestOfWidth w && greatestOfWidth w < hi
    match width with
    | some w => some (greatestOfWidth w)
    | none =>
      if hi ≤ 0x7F then none
      else
        [1, 2, 3].findSome? fun i =>
          let unit := Nat.pow 64 i
          if lo / unit ≠ hi / unit then
            if lo % unit ≠ 0 then some (lo / unit * unit + unit - 1)
            else if hi % unit ≠ unit - 1 then some (hi / unit * unit - 1)
            else none
          else none

/-- A range of code points as sequences of byte ranges. `fuel` bounds the number of cuts. -/
def byteSequences : Nat → Nat → Nat → List (List ByteRange)
  | 0, _, _ => []
  | fuel + 1, lo, hi =>
    if hi < lo then []
    else if 0xD800 ≤ lo && hi ≤ 0xDFFF then []
    else if 0xD800 ≤ lo && lo ≤ 0xDFFF then byteSequences fuel 0xE000 hi
    else
      match cutPoint? lo hi with
      | some cut => byteSequences fuel lo cut ++ byteSequences fuel (cut + 1) hi
      | none => [(codeBytes lo).zip (codeBytes hi)]

/-- The sequences of byte ranges of a set, in ascending order. -/
def setSequences (set : CharSet) : List (List ByteRange) :=
  set.ranges.flatMap fun r => byteSequences 64 r.lo r.hi

/-- The bytes of a text. -/
def textBytes (text : List Char) : List Nat := text.flatMap fun c => codeBytes c.toNat

end Folio.Pattern
