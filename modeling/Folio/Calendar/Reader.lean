import Folio.Text.Blank
import Folio.Calendar.Instant

/-!
# Reading dates

Year, month and day are joined by hyphens, and hour, minute and second by colons; between the two
stands `T` or a space, and the offset from UTC comes last. Numbers may have fewer digits than
usual and blanks in front. An offset is `Z`, `UTC`, or a sign with two digits for the hours and
two for the minutes.
-/

namespace Folio.Calendar

open Folio.Text (trimStart)

/-- The value of decimal digits. -/
def digitsValue (digits : List Char) : Nat :=
  digits.foldl (fun n d => 10 * n + (d.toNat - 48)) 0

/-- At least one and at most `width` digits, after blanks. -/
def number? (width : Nat) (s : List Char) : Option (Nat × List Char) :=
  let s := trimStart s
  let digits := (s.take width).takeWhile Char.isDigit
  if digits.isEmpty then none else some (digitsValue digits, s.drop digits.length)

/-- A year, after blanks: up to four digits, or a sign and any number of digits. -/
def year? (s : List Char) : Option (Int × List Char) :=
  let signed (negative : Bool) (rest : List Char) : Option (Int × List Char) :=
    let digits := rest.takeWhile Char.isDigit
    let n := digitsValue digits
    if digits.isEmpty then none else some (if negative then -n else n, rest.drop digits.length)
  match trimStart s with
  | '-' :: rest => signed true rest
  | '+' :: rest => signed false rest
  | rest => (number? 4 rest).map fun (n, rest) => ((n : Int), rest)

/-- A given character, after blanks. -/
def mark? (c : Char) (s : List Char) : Option (List Char) :=
  match trimStart s with
  | d :: rest => if d = c then some rest else none
  | [] => none

/-- The fraction of a second, in nanoseconds; digits after the ninth are passed over. -/
def fraction? (s : List Char) : Option (Nat × List Char) :=
  match s with
  | '.' :: rest =>
    let digits := rest.takeWhile Char.isDigit
    if digits.isEmpty then none
    else
      let kept := digits.take 9
      some (digitsValue kept * Nat.pow 10 (9 - kept.length), rest.drop digits.length)
  | _ => some (0, s)

/-- Two digits. -/
def twoDigits? (s : List Char) : Option (Nat × List Char) :=
  match s with
  | a :: b :: rest => if a.isDigit && b.isDigit then some (digitsValue [a, b], rest) else none
  | _ => none

/-- An offset from UTC in seconds. -/
def offset? (s : List Char) : Option (Int × List Char) :=
  let signed (sign : Int) (rest : List Char) : Option (Int × List Char) := do
    let (hours, rest) ← twoDigits? rest
    let (minutes, rest) ← twoDigits? (rest.dropWhile fun c => c = ':' || Text.isBlank c)
    if 60 ≤ minutes || 24 ≤ hours then none
    else some (sign * (hours * 3600 + minutes * 60 : Nat), rest)
  if (s.take 3).map Char.toUpper = ['U', 'T', 'C'] then some (0, s.drop 3)
  else
    match s with
    | 'Z' :: rest => some (0, rest)
    | 'z' :: rest => some (0, rest)
    | '+' :: rest => signed 1 rest
    | '-' :: rest => signed (-1) rest
    | '−' :: rest => signed (-1) rest
    | _ => none

/-- Read an instant. -/
def Instant.read? (s : List Char) : Option Instant := do
  let (year, s) ← year? s
  let s ← mark? '-' s
  let (month, s) ← number? 2 s
  let s ← mark? '-' s
  let (day, s) ← number? 2 s
  let c :: s := s | none
  if c ≠ 'T' && c ≠ 't' && c ≠ ' ' then none
  let (hour, s) ← number? 2 s
  let s ← mark? ':' s
  let (minute, s) ← number? 2 s
  let s ← mark? ':' s
  let (second, s) ← number? 2 s
  let (nano, s) ← fraction? s
  let (offset, s) ← offset? (trimStart s)
  if !(trimStart s).isEmpty then none
  let date ← Date.ofYmd? year month day
  if 24 ≤ hour || 60 ≤ minute || 61 ≤ second then none
  Instant.ofClock? date hour minute second nano offset

end Folio.Calendar
