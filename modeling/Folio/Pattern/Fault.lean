import Folio.Text.Lines

/-!
# Faults of a pattern

A fault names a part of the pattern by line and column. Its report shows the pattern with carets
under that part; a pattern of several lines is shown with line numbers between two rules.
-/

namespace Folio.Pattern

/-- A place between two characters of a pattern. Lines and columns count from one. -/
structure Place where
  line : Nat
  column : Nat
  deriving Repr, DecidableEq, Inhabited

/-- The place after a character. -/
def Place.next (p : Place) (c : Char) : Place :=
  if c = '\n' then ⟨p.line + 1, 1⟩ else ⟨p.line, p.column + 1⟩

/-- A part of a pattern. -/
structure Span where
  start : Place
  stop : Place
  deriving Repr, DecidableEq, Inhabited

/-- The empty part at a place. -/
def Place.span (p : Place) : Span := ⟨p, p⟩

/-- What is wrong with a pattern. -/
inductive Cause where
  | classEscape
  | classRange
  | classRangeEnd
  | classUnclosed
  | decimalInvalid
  | hexEmpty
  | hexInvalid
  | hexDigit
  | escapeCut
  | escapeUnknown
  | flagDangling
  | flagRepeated
  | flagNegatedTwice
  | flagCut
  | flagUnknown
  | nameRepeated
  | nameEmpty
  | nameInvalid
  | nameCut
  | groupUnclosed
  | groupUnopened
  | tooDeep (limit : Nat)
  | countRange
  | countEmpty
  | countUnclosed
  | nothingToRepeat
  | boundaryUnclosed
  | boundaryUnknown
  | boundaryCut
  | propertyInvalid
  | backreference
  | lookAround
  | wideText
  | invalidText
  | propertyUnknown
  | propertyValueUnknown
  deriving Repr, DecidableEq

/-- The text of a cause. -/
def Cause.message : Cause → String
  | .classEscape => "invalid escape sequence found in character class"
  | .classRange => "invalid character class range, the start must be <= the end"
  | .classRangeEnd => "invalid range boundary, must be a literal"
  | .classUnclosed => "unclosed character class"
  | .decimalInvalid => "decimal literal invalid"
  | .hexEmpty => "hexadecimal literal empty"
  | .hexInvalid => "hexadecimal literal is not a Unicode scalar value"
  | .hexDigit => "invalid hexadecimal digit"
  | .escapeCut => "incomplete escape sequence, reached end of pattern prematurely"
  | .escapeUnknown => "unrecognized escape sequence"
  | .flagDangling => "dangling flag negation operator"
  | .flagRepeated => "duplicate flag"
  | .flagNegatedTwice => "flag negation operator repeated"
  | .flagCut => "expected flag but got end of regex"
  | .flagUnknown => "unrecognized flag"
  | .nameRepeated => "duplicate capture group name"
  | .nameEmpty => "empty capture group name"
  | .nameInvalid => "invalid capture group character"
  | .nameCut => "unclosed capture group name"
  | .groupUnclosed => "unclosed group"
  | .groupUnopened => "unopened group"
  | .tooDeep limit =>
    "exceed the maximum number of nested parentheses/brackets (" ++ toString limit ++ ")"
  | .countRange => "invalid repetition count range, the start must be <= the end"
  | .countEmpty => "repetition quantifier expects a valid decimal"
  | .countUnclosed => "unclosed counted repetition"
  | .nothingToRepeat => "repetition operator missing expression"
  | .boundaryUnclosed =>
    "special word boundary assertion is either unclosed or contains an invalid character"
  | .boundaryUnknown =>
    "unrecognized special word boundary assertion, valid choices are: start, end, start-half or " ++
      "end-half"
  | .boundaryCut =>
    "found either the beginning of a special word boundary or a bounded repetition on a \\b " ++
      "with an opening brace, but no closing brace"
  | .propertyInvalid => "invalid Unicode character class"
  | .backreference => "backreferences are not supported"
  | .lookAround => "look-around, including look-ahead and look-behind, is not supported"
  | .wideText => "Unicode not allowed here"
  | .invalidText => "pattern can match invalid UTF-8"
  | .propertyUnknown => "Unicode property not found"
  | .propertyValueUnknown => "Unicode property value not found"

/-- A fault: its cause, the part that shows it, and an earlier part that it contradicts. -/
structure Fault where
  span : Span
  cause : Cause
  earlier : Option Span := none
  deriving Repr, DecidableEq

namespace Fault

/-- The parts of the pattern that a fault points at, in the order of the pattern. -/
def spans (f : Fault) : List Span :=
  match f.earlier with
  | some earlier => [earlier, f.span]
  | none => [f.span]

/-- The part of a line of carets from a column on. -/
def carets : Nat → List Span → List Char
  | _, [] => []
  | column, s :: rest =>
    let gap := s.start.column - 1 - column
    let width := max 1 (s.stop.column - s.start.column)
    List.replicate gap ' ' ++ List.replicate width '^' ++ carets (column + gap + width) rest

/-- A line of the pattern, and under it the carets of the parts that lie within that line. -/
def showLine (indent : List Char) (margin : Nat) (number : Nat) (spans : List Span)
    (line : List Char) : List Char :=
  let here := spans.filter fun s => s.start.line = number && s.stop.line = number
  let notes :=
    if here.isEmpty then [] else List.replicate margin ' ' ++ carets 0 here ++ ['\n']
  indent ++ line ++ '\n' :: notes

/-- A number at the right end of a field. -/
def padNumber (width n : Nat) : List Char :=
  let digits := Nat.toDigits 10 n
  List.replicate (width - digits.length) ' ' ++ digits

/-- The parts that span several lines, in words. -/
def spread (spans : List Span) : List Char :=
  let wide := spans.filter fun s => s.start.line ≠ s.stop.line
  wide.flatMap fun s =>
    let place (p : Place) (column : Nat) :=
      "line ".toList ++ Nat.toDigits 10 p.line ++ " (column ".toList ++ Nat.toDigits 10 column ++
        [')']
    "on ".toList ++ place s.start s.start.column ++ " through ".toList ++
      place s.stop (s.stop.column - 1) ++ ['\n']

/-- The report of a fault in a pattern. -/
def report (f : Fault) (pattern : List Char) : String :=
  let rows := Text.lines pattern
  let numbered := rows.zipIdx 1
  let body :=
    if pattern.contains '\n' then
      let count := if pattern.getLast? = some '\n' then rows.length + 1 else rows.length
      let width := (Nat.toDigits 10 count).length
      let rule := List.replicate 79 '~' ++ ['\n']
      let shown := numbered.flatMap fun (line, number) =>
        showLine (padNumber width number ++ [':', ' ']) (width + 2) number f.spans line
      rule ++ shown ++ rule ++ spread f.spans
    else
      numbered.flatMap fun (line, number) =>
        showLine (List.replicate 4 ' ') 4 number f.spans line
  "regex parse error:\n" ++ String.ofList body ++ "error: " ++ f.cause.message

end Fault

end Folio.Pattern
