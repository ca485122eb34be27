import Folio.Blog.FrontMatter
import Folio.Highlight.CodeBlock
import Folio.Highlight.Language
import Folio.Markdown.Html

/-!
# Posts

A post is the front matter of a source and the HTML of its body. A draft is treated as if there
were no such post.
-/

namespace Folio.Blog

/-- What a listing says about a post. -/
structure Meta where
  slug : String
  title : String
  description : String
  author : String
  date : Calendar.Instant
  tags : List String
  deriving Repr, DecidableEq, Inhabited

/-- A post. -/
structure Post where
  summary : Meta
  html : String
  deriving Repr, DecidableEq, Inhabited

/-- Why a post or a listing is not available. -/
inductive Fault where
  | notFound (slug : String)
  | frontMatter (slug : String)
  | encoding (slug : String)
  | badPattern (reason : String)
  deriving Repr, DecidableEq, Inhabited

/-- The text of a fault. -/
def Fault.message : Fault → String
  | .notFound slug => "blog post not found: " ++ slug
  | .frontMatter slug => "missing or malformed front matter in " ++ slug
  | .encoding slug => "blog post " ++ slug ++ " is not valid UTF-8"
  | .badPattern reason => "invalid search pattern: " ++ reason

/-- What the front matter of a source says about the post. -/
def FrontMatter.summary (front : FrontMatter) (slug : String) : Meta :=
  { slug
    title := front.title
    description := front.description
    author := front.author
    date := front.date
    tags := front.tags }

/-- The front matter and the body of a source, or the fault that it has none. -/
def readSource (slug raw : String) : Except Fault (FrontMatter × List Char) :=
  match FrontMatter.read? raw.toList with
  | some parts => .ok parts
  | none => .error (.frontMatter slug)

/-- The HTML of a body, code blocks as listings. -/
def renderBody (body : List Char) : String :=
  let events := (Markdown.Document.read body).events
  String.ofList (Markdown.html (Highlight.replaceCode Highlight.listingFor events))

/-- Read a post. -/
def Post.read (slug raw : String) : Except Fault Post := do
  let (front, body) ← readSource slug raw
  if front.draft then throw (.notFound slug)
  return ⟨front.summary slug, renderBody body⟩

end Folio.Blog
