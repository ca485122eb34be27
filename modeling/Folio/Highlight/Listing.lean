import Folio.Highlight.Style
import Folio.Text.Blank
import Folio.Text.Escape

/-!
# Code listings

A listing is a `pre` element with one or more styled spans for each line. A line keeps its line
feed, and the last one may have none. Of a line's stretches, those that follow one in the same
style join it, and so do blank ones on the same ground.
-/

namespace Folio.Highlight

/-- The lines of a text, each with its line feed. -/
def lines : List Char → List (List Char)
  | [] => []
  | '\n' :: rest => ['\n'] :: lines rest
  | c :: rest =>
    match lines rest with
    | line :: more => (c :: line) :: more
    | [] => [[c]]

/-- A stretch of a line and its style. -/
abbrev Span := Style × List Char

/-- Whether a span may be written in the style of the one before it. -/
def Span.joins (style : Style) (span : Span) : Bool :=
  span.1 = style || (span.1.ground = style.ground && span.2.all Text.isBlank)

/-- The spans of a line behind an open one, joined where they may be. -/
def joinFrom : Span → List Span → List Span
  | (style, text), [] => [(style, text)]
  | (style, text), span :: rest =>
    if span.joins style then joinFrom (style, text ++ span.2) rest
    else (style, text) :: joinFrom span rest

/-- The spans of a line, joined where they may be. -/
def join : List Span → List Span
  | [] => []
  | span :: rest => joinFrom span rest

/-- The HTML of a span. -/
def Span.html : Span → List Char
  | (style, text) =>
    "<span style=\"".toList ++ style.css.toList ++ "\">".toList ++
      Text.escapeWith Text.quoteEscapes text ++ "</span>".toList

/-- A listing of lines that are cut into spans. -/
def listing (cut : List (List Span)) : List Char :=
  "<pre style=\"background-color:#2b303b;\">\n".toList ++
    cut.flatMap (fun line => (join line).flatMap Span.html) ++
    "</pre>\n".toList

/-- A listing of plain text. -/
def plainListing (code : List Char) : List Char :=
  listing ((lines code).map fun line => [(Style.plain, line)])

end Folio.Highlight
