import Folio.Blog.Cache
import Folio.Blog.Record
import Folio.Content.Site
import Folio.Site.BlogView
import Folio.Site.Document
import Folio.Site.Home
import Folio.Text.Quoted

/-!
# Answers to page requests

What is shown is the page that the resolved form of a path leads to, or the text that there is none.
A path under which there is a page can only be read, and its status says so even where its resolved
form leads nowhere; every other path has the status of a missing page, unless a file is served
there. So has the page of a post that is not there. Showing a page keeps what it shows.
-/

namespace Folio.Site

open Folio.Blog (Cache Fault Meta Post)
open Folio.Json (Record Value)

/-- The records of the site. -/
def Portfolio.embedded : Portfolio :=
  { profile := Content.Site.profile
    about := Content.Site.about
    skills := Content.Site.skills
    experience := Content.Site.experience
    education := Content.Site.education
    achievements := Content.Site.achievements }

/-- What a page shows, besides its frame. -/
structure Shown where
  title : Option String
  main : List Html
  /-- What is handed to the browser besides the markup. -/
  resources : List Value
  /-- Whether the post that was asked for is not there. -/
  missing : Bool
  deriving Repr, Inhabited

/-- A result as it is handed to the browser. -/
def resultValue {α : Type} [Record α] : Except Fault α → Value
  | .ok a => .object [("Ok", Record.write a)]
  | .error fault => .object [("Err", .object [("ServerError", .text fault.message)])]

/-- Whether a result says that a post is not there. -/
def isMissing : Except Fault Post → Bool
  | .error (.notFound _) => true
  | _ => false

/-- The title of a page. -/
def titleOf (profile : Content.Profile) (part : String) : String := profile.name ++ " - " ++ part

/-- The title of the page of a post. -/
def postTitle : Except Fault Post → String
  | .ok post => post.summary.title
  | .error _ => "Not found"

/-- What the page of some segments shows. -/
def display (portfolio : Portfolio) (segments : List (List Char)) (cache : Cache) : Shown × Cache :=
  let profile := portfolio.profile
  match pageOf? segments with
  | none =>
    ({ title := none, main := [.text "Page not found."], resources := [], missing := false }, cache)
  | some .home =>
    ({ title := some (titleOf profile "Portfolio")
       main := portfolio.view
       resources := []
       missing := false }, cache)
  | some .listing =>
    let (result, cache) := cache.list ""
    ({ title := some (titleOf profile "Posts")
       main := blogFrame profile (listingView segments result)
       resources := [resultValue result]
       missing := false }, cache)
  | some (.post slug) =>
    let (result, cache) := cache.find slug
    ({ title := some (titleOf profile (postTitle result))
       main := blogFrame profile (postView result)
       resources := [resultValue result]
       missing := isMissing result }, cache)

/-- An answer. There is no document if only the status was asked for, or if the request was not one
for reading. -/
structure Response where
  status : Nat
  document : Option Document
  /-- What a page hands to the browser besides its document, each as a text in a script. -/
  resources : List Value
  deriving Repr, Inhabited

/-- The resources that are still found if the texts in the scripts are taken for JSON, whose escapes
have no braces: those without a character that is written by its number. A browser finds all. -/
def Response.data (response : Response) : List Value :=
  response.resources.filter fun resource => !resource.print.any Text.isObscure

/-- Answer a request for an address that is not that of a file; `built` is the date on which the
site was built. -/
def respond (portfolio : Portfolio) (built method address : String) (cache : Cache) :
    Response × Cache :=
  let path := pathOf address.toList
  let known := isPagePath path
  let reads := method = "GET" || method = "HEAD"
  if known && !reads then ({ status := 405, document := none, resources := [] }, cache)
  else
    let segments := segmentsOf path
    let (shown, cache) := display portfolio segments cache
    let status := if known && !shown.missing then 200 else 404
    if method = "HEAD" then ({ status, document := none, resources := [] }, cache)
    else
      let document : Document :=
        { title := shown.title
          sidebar := sidebar portfolio.profile segments built
          main := shown.main }
      ({ status, document := some document, resources := shown.resources }, cache)

/-- The routes of the site and the methods that they take. -/
def routes : List (String × List String) :=
  [("/", ["Get"]), ("/blog", ["Get"]), ("/blog/\x7bpost\x7d", ["Get"])]

end Folio.Site
