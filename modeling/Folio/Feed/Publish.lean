import Folio.Blog.Cache
import Folio.Content.Site
import Folio.Feed.Channel

/-!
# Publishing the feed

The feed of all posts is written to a file. Either it is written whole, or nothing is and the log
says why.
-/

namespace Folio.Feed

/-- What publishing does: its exit code, the lines of its log, and the text of the file. -/
structure Outcome where
  exitCode : Nat
  log : List String
  file : Option String
  deriving Repr, DecidableEq

/-- The file that the feed is written to. -/
def outputPath : String := "public/rss.xml"

/-- A failure. -/
def Outcome.failure (reason : String) : Outcome :=
  { exitCode := 1, log := ["ERROR rss: " ++ reason], file := none }

/-- Publish the feed of the site, under an address if one is given, into a folder if it is there.
Without a result the dates of the posts do not allow a feed. -/
def publish? (siteUrl : Option String) (folder : Bool) : Option Outcome :=
  match Origin.of siteUrl Content.Site.profile with
  | .error fault => some (.failure fault.message)
  | .ok origin =>
    match (Blog.Cache.empty.list "").1 with
    | .error fault => some (.failure ("couldn't load blog posts: " ++ fault.message))
    | .ok posts => do
      let channel ← Channel.ofPosts? origin posts
      if folder then
        return {
          exitCode := 0
          log := ["INFO rss: wrote " ++ toString posts.length ++ " posts to " ++ outputPath]
          file := some channel.text }
      else
        return .failure
          ("couldn't write " ++ outputPath ++ ": No such file or directory (os error 2)")

end Folio.Feed
