import Folio.Site.Html
import Folio.Text.Blank

/-!
# Documents

A page as a whole: links in its head, a title, and a body. The title is the one text that is written
as it is. Parts of a document are found by the text around them.
-/

namespace Folio.Site

/-- A page as a whole. -/
structure Document where
  title : Option String
  sidebar : Html
  main : List Html
  deriving Repr, Inhabited

/-- The links in the head of every page. -/
def headLinks : List Html :=
  [.void "link" [("rel", "shortcut icon"), ("type", "image/ico"), ("href", "/favicon.ico")],
    .void "link"
      [("rel", "stylesheet"),
        ("href", "https://cdn.jsdelivr.net/gh/devicons/devicon@v2.16.0/devicon.min.css")],
    .void "link"
      [("rel", "stylesheet"), ("id", "leptos"), ("href", "/pkg/portfolio-site.css")],
    .element "script"
      [("src", "https://cdn.jsdelivr.net/npm/particles.js@2.0.0/particles.min.js")] []]

namespace Document

/-- The mark in the head behind which the title stands. -/
def headMark : List Char := "<!--HEAD-->".toList

/-- The body of a page. -/
def body (document : Document) : Html :=
  .element "body" []
    [.element "div" [("id", "template-page")]
      [.element "div" [("id", "container-wrap")]
        [document.sidebar, .element "main" [("id", "template-main")] document.main]]]

/-- The title as it is written. -/
def titleText (document : Document) : List Char :=
  match document.title with
  | some title => "<title>".toList ++ title.toList ++ "</title>".toList
  | none => []

/-- The text of a document. -/
def text (document : Document) : List Char :=
  "<!DOCTYPE html><html lang=\"en\"><head><meta charset=\"utf-8\">".toList ++
    "<meta name=\"viewport\" content=\"width=device-width, initial-scale=1\">".toList ++
    Html.writeAll headLinks ++ headMark ++ document.titleText ++ "</head>".toList ++
    document.body.write ++ "</html>".toList

/-- What stands before the first occurrence of a text. -/
def before (mark : List Char) : List Char → List Char
  | [] => []
  | c :: rest => if Text.startsWith mark (c :: rest) then [] else c :: before mark rest

/-- What stands behind the first occurrence of a text. -/
def behind? (mark : List Char) : List Char → Option (List Char)
  | [] => none
  | c :: rest =>
    match Text.dropStart? mark (c :: rest) with
    | some after => some after
    | none => behind? mark rest

/-- What stands between the first occurrence of a text and the next occurrence of another. -/
def between? (opening closing : String) (s : List Char) : Option (List Char) :=
  (behind? opening.toList s).map (before closing.toList)

/-- The placeholders that scripts leave in a page. -/
def dropPlaceholders : List Char → List Char
  | '<' :: '!' :: '>' :: rest => dropPlaceholders rest
  | c :: rest => c :: dropPlaceholders rest
  | [] => []

/-- The raw text of the title. -/
def rawTitle? (document : Document) : Option String :=
  (between? "<title>" "</title>" document.text).map String.ofList

/-- The main part of a page. -/
def mainText? (document : Document) : Option String :=
  (between? "<main id=\"template-main\">" "</main></div></div></body>" document.text).map fun s =>
    String.ofList (dropPlaceholders s)

/-- The sidebar of a page. -/
def asideText? (document : Document) : Option String :=
  (between? "<aside " "</aside>" document.text).map fun s => String.ofList (dropPlaceholders s)

/-- The links in the head, which are the same in every page. -/
def headText : String := String.ofList (Html.writeAll headLinks)

end Document

end Folio.Site
