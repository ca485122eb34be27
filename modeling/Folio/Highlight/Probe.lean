import Folio.Text.Blank
import Folio.Text.Word

/-!
# Probes

A probe looks at a place in a line, given by the character before it and the text after it, and
tells how many characters it accepts there. It does not go back: what a part of it has accepted
stays accepted. A probe may accept no characters and still hold.
-/

namespace Folio.Highlight

/-- How many characters are accepted at a place, given the character before it. -/
abbrev Probe := Option Char → List Char → Option Nat

namespace Probe

/-- The character before the place that lies `n` characters further on. -/
def beforeAt (before : Option Char) (rest : List Char) (n : Nat) : Option Char :=
  ((rest.take n).getLast?).or before

/-- One character of a class. -/
def one (p : Char → Bool) : Probe := fun _ rest =>
  match rest with
  | c :: _ => if p c then some 1 else none
  | [] => none

/-- The longest run of characters of a class, which may be empty. -/
def many (p : Char → Bool) : Probe := fun _ rest => some (rest.takeWhile p).length

/-- A run of one or more characters of a class. -/
def run (p : Char → Bool) : Probe := fun _ rest =>
  match rest.takeWhile p with
  | [] => none
  | taken => some taken.length

/-- A given text. -/
def lit (s : String) : Probe := fun _ rest =>
  if Text.startsWith s.toList rest then some s.length else none

/-- A given text, in letters of either case. -/
def litAnyCase (s : String) : Probe := fun _ rest =>
  if (rest.take s.length).map Char.toLower = s.toList.map Char.toLower then some s.length else none

/-- The first of some given texts that stands here. -/
def oneOf (texts : List String) : Probe := fun before rest =>
  texts.findSome? fun s => lit s before rest

/-- One probe and then another. -/
def seq (first second : Probe) : Probe := fun before rest => do
  let n ← first before rest
  let m ← second (beforeAt before rest n) (rest.drop n)
  return n + m

/-- Probes one after another. -/
def chain : List Probe → Probe
  | [] => fun _ _ => some 0
  | [probe] => probe
  | probe :: more => seq probe (chain more)

/-- One probe or, where it fails, another. -/
def or (first second : Probe) : Probe := fun before rest =>
  (first before rest).or (second before rest)

/-- A probe, or nothing where it fails. -/
def maybe (probe : Probe) : Probe := fun before rest =>
  some ((probe before rest).getD 0)

/-- That a probe accepts what comes next, which is left in place. -/
def ahead (probe : Probe) : Probe := fun before rest =>
  (probe before rest).map fun _ => 0

/-- That a probe does not accept what comes next. -/
def notAhead (probe : Probe) : Probe := fun before rest =>
  if (probe before rest).isSome then none else some 0

/-- That the character before the place, if there is one, is of a class. -/
def after (p : Char → Bool) : Probe := fun before _ =>
  if before.all p then some 0 else none

/-- The start of the line. -/
def lineStart : Probe := fun before _ => if before.isNone then some 0 else none

/-- The end of the line, before its line feed. -/
def lineEnd : Probe := fun _ rest =>
  match rest with
  | [] | ['\n'] => some 0
  | _ => none

/-- The end of the line with its line feed. -/
def lineBreak : Probe := fun _ rest =>
  match rest with
  | [] => some 0
  | ['\n'] => some 1
  | _ => none

/-- The rest of the line with its line feed. -/
def restOfLine : Probe := fun _ rest => some rest.length

/-- Whether a character is part of a word. -/
def inWord (c : Char) : Bool := Text.isWordChar c

/-- Blanks within a line, if any. -/
def blanks : Probe := many fun c => c = ' ' || c = '\t'

/-- Text in which two probes each hold once, the first at its start and the second at its end. -/
def between (opening closing : String) : Probe :=
  chain [lit opening, fun _ rest => untilText closing.toList rest, lit closing]
where
  /-- The number of characters before the next occurrence of a text. -/
  untilText (text : List Char) : List Char → Option Nat
    | [] => none
    | c :: rest =>
      if Text.startsWith text (c :: rest) then some 0
      else (untilText text rest).map (· + 1)

/-- The place between a word character and one that is none. -/
def boundary : Probe := fun before rest =>
  if before.any inWord = rest.head?.any inWord then none else some 0

/-- A whole word whose first character and whose others are of two classes. -/
def wordOf (first others : Char → Bool) : Probe := fun before rest =>
  if before.any inWord then none
  else
    match rest with
    | c :: more => if first c then some ((more.takeWhile others).length + 1) else none
    | [] => none

/-- A whole word of letters, digits and underscores that starts with no digit. -/
def identifier : Probe :=
  wordOf (fun c => c = '_' || (inWord c && !c.isDigit)) inWord

/-- A whole word that is among some given ones. -/
def word (words : List String) : Probe := fun before rest =>
  if before.any inWord then none
  else
    let w := rest.takeWhile inWord
    if words.contains (String.ofList w) then some w.length else none

/-- A whole word that is among some given ones in lower case, in letters of either case. -/
def wordAnyCase (words : List String) : Probe := fun before rest =>
  if before.any inWord then none
  else
    let w := rest.takeWhile inWord
    if words.contains (String.ofList (w.map Char.toLower)) then some w.length else none

end Probe

end Folio.Highlight
