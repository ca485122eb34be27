import Folio.Highlight.Lexeme

/-!
# Differences between texts

Lines that were inserted, deleted or changed are told by their first character. A heading of a file
or a range is plain.
-/

namespace Folio.Highlight.Diff

open Probe Rule

/-- The only context of the grammar. -/
inductive Context where
  | lines

/-- The rules of the context. -/
def rules : Context → List (Rule Context)
  | .lines =>
    [token .plain (chain [lineStart, oneOf ["---", "+++", "***"], ahead (or (lit " ") lineEnd),
        restOfLine]),
      token .plain (chain [lineStart, lit "@@", restOfLine]),
      token .inserted (chain [lineStart, one (fun c => c = '+' || c = '>'), restOfLine]),
      token .deleted (chain [lineStart, one (fun c => c = '-' || c = '<'), restOfLine]),
      token .keyword (chain [lineStart, lit "!", restOfLine])]

/-- The grammar. -/
def grammar : Grammar := ⟨Context, .lines, fun _ => none, rules⟩

end Folio.Highlight.Diff
