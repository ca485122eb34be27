import Folio.Markdown.Event

/-!
# Code blocks among events

The code blocks in a list of events are replaced by HTML; all other events stay as they are and
where they are.
-/

namespace Folio.Highlight

open Folio.Markdown (Event Tag)

/-- A code block that is open: its fence's information, and its text so far. -/
structure OpenBlock where
  info : Option (List Char)
  text : List Char

/-- Replace each code block by the HTML that `render` makes of its information and its text, given
the block that is open. -/
def replaceCodeFrom (render : Option (List Char) → List Char → List Char) :
    Option OpenBlock → List Event → List Event
  | _, [] => []
  | _, .start (.code info) :: rest => replaceCodeFrom render (some ⟨info, []⟩) rest
  | some block, .text s :: rest =>
    replaceCodeFrom render (some { block with text := block.text ++ s }) rest
  | some block, .finish (.code _) :: rest =>
    .html (render block.info block.text) :: replaceCodeFrom render none rest
  | none, .finish (.code _) :: rest => replaceCodeFrom render none rest
  | block, event :: rest => event :: replaceCodeFrom render block rest

/-- Replace each code block by the HTML that `render` makes of its information and its text. -/
def replaceCode (render : Option (List Char) → List Char → List Char) (events : List Event) :
    List Event :=
  replaceCodeFrom render none events

end Folio.Highlight
