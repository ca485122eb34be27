import Folio.Blog.Post
import Folio.Calendar.Writer
import Folio.Site.Sidebar

/-!
# The pages of the blog

The listing and the posts, below a common heading. What a post says of itself is escaped; its
article was made from the source of the site and is shown as it is.
-/

namespace Folio.Site

open Folio.Blog (Fault Meta Post)

/-- The frame of all pages of the blog. -/
def blogFrame (profile : Content.Profile) (children : List Html) : List Html :=
  [.div "text-center my-8"
      [.element "h1" [("class", "font-bold text-3xl lg:text-4xl mb-4 section-content")]
          [.element "a" [("href", "/blog"), ("class", "hover:text-purple")]
              [.text (profile.name ++ "'s Blog")],
            .element "a"
              [("href", "/rss.xml"), ("target", "_blank"),
                ("class", "relative top-1 ml-4 text-brightYellow hover:text-yellow"),
                ("aria-label", "RSS Feed")]
              [.icon "extra-rss"]],
        .div "max-w-2xl mx-auto text-lg text-muted section-content"
          [.text "Older writing lives on ",
            .element "a" (("href", profile.legacyBlog) :: Html.outside)
              [.text "the WordPress blog"],
            .text "."]],
    .div "w-full max-w-4xl mx-auto px-8 text-left" children]

/-- The form in which a pattern is entered. -/
def searchForm : Html :=
  .element "form" [("class", "flex flex-col sm:flex-row gap-3 items-start sm:items-center mb-6")]
    [.element "label" [("for", "blog_search"), ("class", "font-medium whitespace-nowrap")]
        [.text "Search (regex):"],
      .void "input"
        [("id", "blog_search"), ("placeholder", "constrained|parsing"),
          ("class",
            "flex-grow w-full sm:max-w-md px-4 py-2 rounded-md border border-muted")],
      .element "button"
        [("type", "submit"), ("class", "px-4 py-2 rounded-md border border-cyan/30")]
        [.text "Search"]]

/-- The date of a post as readers see it. -/
def dateText (post : Meta) : String := String.ofList post.date.shortText

/-- An entry of the listing. -/
def entryLink (segments : List (List Char)) (post : Meta) : Html :=
  let href := "/blog/" ++ post.slug
  .div "mb-4 hover:bg-brightBlack/20 p-2 rounded-md"
    [.element "a"
      (("href", href) :: currentMark segments href ++
        [("class", "text-lg leading-tight block")])
      [.element "div" []
          [.span "text-muted" (dateText post), .text " ",
            .span "text-blue font-medium" post.title],
        .div "text-base" [.text post.description],
        .div "mt-1"
          (post.tags.map (.span "rounded-md px-2 py-1 bg-brightBlack mr-2 text-sm"))]]

/-- The number of posts in words. -/
def countText (n : Nat) : String := if n = 1 then "1 post" else toString n ++ " posts"

/-- The listing, or why there is none. -/
def listingView (segments : List (List Char)) (result : Except Fault (List Meta)) : List Html :=
  searchForm ::
    match result with
    | .ok posts =>
      [.paragraph "text-sm text-muted mb-4" (countText posts.length),
        .div "space-y-4 section-content" (posts.map (entryLink segments))]
    | .error fault =>
      [.paragraph "text-red"
        ("Search failed: error running server function: " ++ fault.message)]

/-- What a post says of itself, and its article. -/
def postBody (post : Post) : List Html :=
  [.element "h2" [("class", "text-2xl font-bold mb-4")] [.text post.summary.title],
    .div "mb-6 p-4 bg-brightBlack/20 rounded-md border border-muted/30"
      [.div "flex flex-wrap items-center gap-4 text-sm"
        [.span "text-cyan font-medium" post.summary.author,
          .span "text-yellow font-medium" (dateText post.summary),
          .div "flex flex-wrap gap-1"
            (post.summary.tags.map
              (.span "bg-green/20 text-green px-2 py-1 rounded text-xs"))]],
    .element "article" [("class", "prose prose-invert max-w-none")] [.markup post.html]]

/-- The page of a post, or that there is none. -/
def postView (result : Except Fault Post) : List Html :=
  [.element "div" [("id", "blog_content")]
    (match result with
      | .ok post => postBody post
      | .error _ => [.paragraph "text-center" "That post doesn't exist."])]

end Folio.Site
