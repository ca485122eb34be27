import Folio.Pattern.Regex
import Folio.Text.Word

/-!
# Matching

A set of places in a text is kept as one mark for each place: before the first character, between
any two, and after the last. An expression takes the places where its matches start to those where
they end. A text matches when, from all places, any is left.
-/

namespace Folio.Pattern

open Folio.Text (CharSet)

/-- One mark for each place of a text. -/
abbrev Marks := List Bool

namespace Marks

/-- Whether any place is marked. -/
def some (marks : Marks) : Bool := marks.any id

/-- The places that have one of two marks. -/
def join (a b : Marks) : Marks := List.zipWith (· || ·) a b

/-- The places that have the first of two marks but not the second. -/
def minus (a b : Marks) : Marks := List.zipWith (fun x y => x && !y) a b

/-- Every place of a text. -/
def all (text : List Char) : Marks := true :: text.map fun _ => true

/-- The places behind the characters of a set that stand at marked places. -/
def behind (set : CharSet) : List Char → Marks → Marks
  | c :: rest, m :: marks => (m && set.contains c) :: behind set rest marks
  | _, _ => []

/-- The places one character further on, where that character is in a set. -/
def step (set : CharSet) (text : List Char) (marks : Marks) : Marks :=
  false :: behind set text marks

/-- The marked places and those that any number of characters of a set lead to from there; `carry`
marks the first place, too. -/
def run (set : CharSet) (carry : Bool) : List Char → Marks → Marks
  | c :: rest, m :: marks =>
    let here := m || carry
    here :: run set (here && set.contains c) rest marks
  | [], m :: _ => [m || carry]
  | _, [] => []

end Marks

/-- Whether a character is part of words, by Unicode or by ASCII. -/
def isWordFor (wide : Bool) (c : Char) : Bool :=
  if wide then Text.isWordChar c else Text.isAsciiWord c

/-- Whether a condition holds between a character and the text after it. -/
def Look.holds (look : Look) (before : Option Char) (after : List Char) : Bool :=
  let next := after.head?
  match look with
  | .textStart => before.isNone
  | .textEnd => next.isNone
  | .lineStart false => before.isNone || before = some '\n'
  | .lineEnd false => next.isNone || next = some '\n'
  | .lineStart true =>
    before.isNone || before = some '\n' || before = some '\r' && next ≠ some '\n'
  | .lineEnd true =>
    next.isNone || next = some '\r' || next = some '\n' && before ≠ some '\r'
  | .boundary wide => before.any (isWordFor wide) != next.any (isWordFor wide)
  | .noBoundary wide => before.any (isWordFor wide) == next.any (isWordFor wide)
  | .wordStart wide => !before.any (isWordFor wide) && next.any (isWordFor wide)
  | .wordEnd wide => before.any (isWordFor wide) && !next.any (isWordFor wide)
  | .wordStartHalf wide => !before.any (isWordFor wide)
  | .wordEndHalf wide => !next.any (isWordFor wide)

namespace Marks

/-- The marked places at which a condition holds. -/
def keep (look : Look) (before : Option Char) : List Char → Marks → Marks
  | c :: rest, m :: marks =>
    (m && look.holds before (c :: rest)) :: keep look (Option.some c) rest marks
  | [], m :: _ => [m && look.holds before []]
  | _, [] => []

/-- The places after a number of steps. -/
def iterate (f : Marks → Marks) : Nat → Marks → Marks
  | 0, marks => marks
  | n + 1, marks => if marks.some then iterate f n (f marks) else marks

/-- The places after at most a number of steps from the marked ones; `found` are those that are
known, and only new ones are followed. -/
def spread (f : Marks → Marks) : Nat → Marks → Marks → Marks
  | 0, found, _ => found
  | n + 1, found, fresh =>
    let next := (f fresh).minus found
    if next.some then spread f n (found.join next) next else found

end Marks

namespace Regex

mutual

/-- The places where the matches of an expression end that start at marked places. -/
def ends (text : List Char) : Regex → Marks → Marks
  | .empty, marks => marks
  | .text chars, marks => chars.foldl (fun marks c => marks.step (.single c.toNat) text) marks
  | .one set, marks => marks.step set text
  | .look condition, marks => marks.keep condition none text
  | .repeated least most r, marks =>
    let start := marks.iterate (r.ends text) least
    match most, r with
    | none, .one set => start.run set false text
    | none, .text [c] => start.run (.single c.toNat) false text
    | none, r => Marks.spread (r.ends text) (text.length + 1) start start
    | some most, r => Marks.spread (r.ends text) (min (most - least) (text.length + 1)) start start
  | .group r, marks => r.ends text marks
  | .seq parts, marks => endsOfAll text parts marks
  | .alt branches, marks => endsOfAny text branches marks

/-- The places where the matches of some expressions, one after the other, end. -/
def endsOfAll (text : List Char) : List Regex → Marks → Marks
  | [], marks => marks
  | r :: rest, marks => endsOfAll text rest (r.ends text marks)

/-- The places where the matches of any of some expressions end. -/
def endsOfAny (text : List Char) : List Regex → Marks → Marks
  | [], marks => marks.map fun _ => false
  | r :: rest, marks => (r.ends text marks).join (endsOfAny text rest marks)

end

/-- Whether an expression matches somewhere in a text. -/
def matchesIn (r : Regex) (text : List Char) : Bool := (r.ends text (.all text)).some

end Regex

end Folio.Pattern
