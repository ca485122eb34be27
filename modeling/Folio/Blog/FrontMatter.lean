import Folio.Calendar.Reader
import Folio.Text.Blank
import Folio.Text.Lines
import Folio.Yaml.Node

/-!
# Front matter

A source opens with a block of YAML between two lines that read `---`; blanks behind the hyphens do
not count. What follows the second line is the body.
-/

namespace Folio.Blog

open Folio.Text (trim trimEnd lines joinLines)
open Folio.Yaml (Value)

/-- What the front matter of a post says. -/
structure FrontMatter where
  title : String
  description : String
  author : String
  date : Calendar.Instant
  tags : List String
  draft : Bool
  deriving Repr, DecidableEq

/-- Whether a line opens or closes front matter. -/
def isFence (line : List Char) : Bool := trimEnd line = ['-', '-', '-']

/-- The front matter and the body of a source: the lines between the fences, joined and without
blanks at the ends, and the lines after them. There must be some text between the fences. -/
def splitSource? (raw : List Char) : Option (List Char × List Char) :=
  match lines raw with
  | [] => none
  | first :: rest =>
    if isFence first then
      match rest.dropWhile fun line => !isFence line with
      | [] => none
      | _ :: body =>
        let matter := trim (joinLines (rest.takeWhile fun line => !isFence line))
        if matter.isEmpty then none else some (matter, joinLines body)
    else none

namespace FrontMatter

/-- The text in a value. -/
def text? : Value → Option String
  | .text s => some (String.ofList s)
  | _ => none

/-- The texts in a list. -/
def texts? : Value → Option (List String)
  | .list items => items.mapM text?
  | _ => none

/-- The flag in a value. -/
def flag? : Value → Option Bool
  | .bool b => some b
  | _ => none

/-- The instant that a value spells. -/
def instant? : Value → Option Calendar.Instant
  | .text s => Calendar.Instant.read? s
  | _ => none

/-- The value of a key of a map. -/
def field? (entries : List (Value × Value)) (key : String) : Option Value :=
  (entries.find? fun entry =>
    match entry.1 with
    | .text s => s = key.toList
    | _ => false).map Prod.snd

/-- Front matter whose fields are looked up; there may be no tags and no draft flag. -/
def ofFields? (field? : String → Option Value) : Option FrontMatter := do
  let title ← text? (← field? "title")
  let description ← text? (← field? "description")
  let author ← text? (← field? "author")
  let date ← instant? (← field? "date")
  let tags ← match field? "tags" with | some value => texts? value | none => some []
  let draft ← match field? "draft" with | some value => flag? value | none => some false
  return { title, description, author, date, tags, draft }

/-- The names of the fields in the order of a list. -/
def order : List String := ["title", "description", "author", "date", "tags", "draft"]

/-- Front matter from a map, in which other keys do not matter, or from a list of its fields. -/
def ofValue? : Value → Option FrontMatter
  | .map entries => ofFields? (field? entries)
  | .list items =>
    if items.length ≤ order.length then ofFields? fun name => (order.zip items).lookup name
    else none
  | _ => none

/-- The front matter and the body of a source. -/
def read? (raw : List Char) : Option (FrontMatter × List Char) := do
  let (matter, body) ← splitSource? raw
  let front ← ofValue? (← Value.ofText? matter)
  return (front, body)

end FrontMatter

end Folio.Blog
