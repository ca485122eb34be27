import Folio.Blog.Post
import Folio.Calendar.Writer
import Folio.Feed.Origin
import Folio.Feed.Xml

/-!
# Feed channels

A channel has one item for each post, in the order of the posts. Links are the address of the site
without slashes at its end, and a path. Dates are written as in mail headers, so that a post of a
year outside 0 to 9999 cannot be in a channel.
-/

namespace Folio.Feed

/-- An item of a channel. -/
structure Item where
  title : String
  link : String
  description : String
  author : String
  categories : List String
  guid : String
  date : String
  deriving Repr, DecidableEq, Inhabited

/-- A channel. -/
structure Channel where
  title : String
  link : String
  description : String
  language : String
  ttl : String
  /-- The address of the feed itself. -/
  selfLink : String
  items : List Item
  deriving Repr, DecidableEq, Inhabited

/-- An address without slashes at its end. -/
def baseOf (url : String) : String := String.ofList (Text.dropEndWhile (· = '/') url.toList)

/-- The item of a post under an address. -/
def Item.ofPost? (base : String) (post : Blog.Meta) : Option Item := do
  let date ← post.date.mailText?
  let link := base ++ "/blog/" ++ post.slug
  return {
    title := post.title
    link
    description := post.description
    author := post.author
    categories := post.tags
    guid := link
    date := String.ofList date }

/-- The channel of some posts. -/
def Channel.ofPosts? (origin : Origin) (posts : List Blog.Meta) : Option Channel := do
  let base := baseOf origin.url
  let items ← posts.mapM (Item.ofPost? base)
  return {
    title := origin.owner ++ "'s Blog"
    link := base ++ "/blog"
    description := "Notes and write-ups by " ++ origin.owner ++ "."
    language := "en-us"
    ttl := "60"
    selfLink := base ++ "/rss.xml"
    items }

/-- An item as an element. -/
def Item.xml (item : Item) : Xml :=
  .parent "item" []
    ([.text "title" item.title, .text "link" item.link, .cdata "description" item.description,
      .text "author" item.author] ++ item.categories.map (.text "category") ++
      [.text "guid" item.guid, .text "pubDate" item.date])

/-- A channel as a document. -/
def Channel.xml (channel : Channel) : Xml :=
  .parent "rss" [("version", "2.0"), ("xmlns:atom", "http://www.w3.org/2005/Atom")]
    [.parent "channel" []
      ([.text "title" channel.title, .text "link" channel.link,
        .text "description" channel.description, .text "language" channel.language,
        .text "ttl" channel.ttl,
        .leaf "atom:link"
          [("href", channel.selfLink), ("rel", "self"), ("type", "application/rss+xml")]] ++
        channel.items.map Item.xml)]

/-- The text of a channel on one line. -/
def Channel.compactText (channel : Channel) : String :=
  String.ofList (channel.xml.document none)

/-- The text of a channel, with an indent of two spaces. -/
def Channel.text (channel : Channel) : String := String.ofList (channel.xml.document (some 2))

end Folio.Feed
