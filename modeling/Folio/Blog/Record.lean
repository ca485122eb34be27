import Folio.Blog.Post
import Folio.Calendar.Reader
import Folio.Calendar.Writer
import Folio.Json.Record

/-!
# Posts in JSON

The form in which posts and listings are handed to the browser. Dates are written exactly and may be
read in every form that dates in front matter may have.
-/

namespace Folio.Blog

open Folio.Json (Record Shape Value)
open Folio.Json.Record (field? required)

/-- The shape of a date. -/
def dateShape : Shape := .text fun s => (Calendar.Instant.read? s.toList).isSome

/-- A date as a text. -/
def writeDate (date : Calendar.Instant) : Value := .text (String.ofList date.text)

/-- The date that a text spells. -/
def readDate? (value : Value) : Option Calendar.Instant :=
  value.text?.bind fun s => Calendar.Instant.read? s.toList

instance : Record Meta where
  shape :=
    .record
      [required "slug" .anyText, required "title" .anyText, required "description" .anyText,
        required "author" .anyText, required "date" dateShape, required "tags" (.list .anyText)]
  write post :=
    .object
      [("slug", .text post.slug), ("title", .text post.title),
        ("description", .text post.description), ("author", .text post.author),
        ("date", writeDate post.date), ("tags", .texts post.tags)]
  read? value := do
    return {
      slug := ← field? Value.text? "slug" value
      title := ← field? Value.text? "title" value
      description := ← field? Value.text? "description" value
      author := ← field? Value.text? "author" value
      date := ← field? readDate? "date" value
      tags := ← field? (Value.listOf? Value.text?) "tags" value }

instance : Record Post where
  shape := .record [required "meta" (Record.shape Meta), required "html" .anyText]
  write post := .object [("meta", Record.write post.summary), ("html", .text post.html)]
  read? value := do
    return {
      summary := ← field? Record.read? "meta" value
      html := ← field? Value.text? "html" value }

end Folio.Blog
