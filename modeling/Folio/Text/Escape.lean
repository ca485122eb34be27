/-!
# Escaped text

Each output format replaces a few characters by character references and copies all others.
A format is the function that gives a character's replacement.
-/

namespace Folio.Text

/-- The replacement of a character in some output format, if it has one. -/
abbrev Escapes := Char → Option String

/-- Replace each character that has a replacement. -/
def escapeWith (escapes : Escapes) (s : List Char) : List Char :=
  s.flatMap fun c =>
    match escapes c with
    | some reference => reference.toList
    | none => [c]

/-- Text between tags: only what could start a tag or a reference. -/
def textEscapes : Escapes
  | '&' => some "&amp;"
  | '<' => some "&lt;"
  | '>' => some "&gt;"
  | _ => none

/-- Attribute values in double quotes. -/
def attributeEscapes : Escapes
  | '"' => some "&quot;"
  | c => textEscapes c

/-- Articles and code listings: both quotes are replaced, the single one by its number. -/
def quoteEscapes : Escapes
  | '"' => some "&quot;"
  | '\'' => some "&#39;"
  | c => textEscapes c

/-- XML text: the five predefined entities. -/
def xmlEscapes : Escapes
  | '"' => some "&quot;"
  | '\'' => some "&apos;"
  | c => textEscapes c

end Folio.Text
