import Folio.Highlight.Lexeme

/-!
# Markdown

Headings, lists, quotations, separators and fenced code are told by the start of their lines; inside
a line stand emphasis, code, links and escapes.
-/

namespace Folio.Highlight.Markdown

open Probe Rule

/-- The contexts of the grammar. -/
inductive Context where
  | text
  | heading
  | list
  | quotation
  | fence (sign : String)
  | emphasis (sign : String)
  | strong (sign : String)
  | link
  | target
  | comment

/-- Up to three blanks at the start of a line. -/
def indent : Probe := seq lineStart (maybe (upTo (· = ' ') 3))

/-- A line of three or more of one sign with blanks between them. -/
def separatorLine (sign : Char) : Probe := fun _ rest =>
  let signs := rest.filter (· = sign)
  if signs.length ≥ 3 && rest.all (fun c => c = sign || c = ' ' || c = '\n') then some rest.length
  else none

/-- That a sign comes again further on in the line. -/
def closedBy (sign : String) : Probe := fun _ rest =>
  if Text.occursIn sign.toList rest then some 0 else none

/-- A sign that opens a stretch which ends with the same sign. -/
def opening (sign : String) : Probe :=
  chain [lit sign, notAhead (one Text.isBlank), notAhead (lit sign), ahead (closedBy sign)]

/-- Emphasis, code, links, escapes and entities. -/
def inline : List (Rule Context) :=
  [token .escape (seq (lit "\\") (one "\\\x60*_\x7b\x7d[]()#+-.!>".toList.contains)),
    token .string (between "\x60\x60" "\x60\x60"),
    token .string (between "\x60" "\x60"),
    opens .strong (opening "**") (.strong "**"), opens .strong (opening "__") (.strong "__"),
    opens .emphasis (opening "*") (.emphasis "*"),
    opens .emphasis (chain [after fun c => !inWord c, opening "_"]) (.emphasis "_"),
    token .linkTarget (chain [lit "<", oneOf ["http://", "https://", "mailto:"],
      run (fun c => c ≠ '>' && c ≠ '\n' && c ≠ ' '), lit ">"]),
    opens .linkTarget (chain [maybe (lit "!"), lit "[",
      ahead (chain [many (fun c => c ≠ ']' && c ≠ '\n'), lit "]("])]) .link,
    parts [(.identity, lit "&"), (.constant, run Char.isAlphanum), (.identity, lit ";")],
    opens .comment (lit "<!--") .comment,
    parts [(.plain, oneOf ["</", "<"]), (.tag, seq (one Char.isAlpha) (many inWord))]]

/-- The rules of each context. -/
def rules : Context → List (Rule Context)
  | .text =>
    [opens .heading (chain [indent, run (· = '#'), ahead (or (lit " ") lineEnd)]) .heading,
      token .separator (chain [indent, or (separatorLine '-') (or (separatorLine '*')
        (separatorLine '_'))]),
      opens .quotation (seq indent (lit ">")) .quotation,
      opens .item (chain [lineStart, blanks, or (oneOf ["-", "*", "+"])
        (seq (run Char.isDigit) (lit ".")), ahead (lit " ")]) .list,
      (token .plain (seq indent (lit "\x60\x60\x60"))).thenTurn (.push [.fence "\x60\x60\x60"]),
      (token .plain (seq indent (lit "~~~"))).thenTurn (.push [.fence "~~~"])] ++ inline
  | .heading => [leave lineEnd] ++ inline
  | .list => [leave (seq lineStart lineBreak)] ++ inline
  | .quotation => [leave (seq lineStart lineBreak)] ++ inline
  | .fence sign => [closes .plain (chain [indent, lit sign, ahead (seq blanks lineEnd)])]
  | .emphasis sign => [closes .emphasis (lit sign)] ++ inline
  | .strong sign => [closes .strong (lit sign)] ++ inline
  | .link =>
    [(token .linkTarget (lit "](")).thenTurn (.swap [.target]),
      token .linkText (run fun c => c ≠ ']' && c ≠ '\n'), leave lineEnd]
  | .target => [closes .linkTarget (lit ")"), leave lineEnd]
  | .comment => [closes .comment (lit "-->")]

/-- The role of text that no rule gives one. -/
def ground : Context → Option Role
  | .heading => some .heading
  | .list => some .item
  | .quotation => some .quotation
  | .fence _ => some .plain
  | .emphasis _ => some .emphasis
  | .strong _ => some .strong
  | .link | .target => some .linkTarget
  | .comment => some .comment
  | .text => none

/-- The grammar. -/
def grammar : Grammar := ⟨Context, .text, ground, rules⟩

end Folio.Highlight.Markdown
