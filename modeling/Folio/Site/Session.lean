import Folio.Site.Call

/-!
# Sessions

A session is a run of steps over one cache: requests that show a listing or a post, and changes of
what is kept. The answer to a step and the cache behind it depend on the step and on the cache in
front of it.
-/

namespace Folio.Site

open Folio.Blog (Cache Fault Meta Post)

/-- A step of a session. -/
inductive Step where
  | find (slug : String)
  | list (pattern : String)
  | page (method address : String)
  | call (target : Call) (query : String)
  | keepPost (slug : String) (post : Post)
  | keepListing (pattern : String) (posts : List Meta)
  | dropPost (slug : String)
  | dropListing (pattern : String)
  | clear
  | keys

/-- What a step is answered. -/
inductive Answer where
  | post (result : Except Fault Post)
  | listing (result : Except Fault (List Meta))
  | page (response : Response)
  | reply (reply : Reply)
  /-- Whether something was kept before under the key of the step. -/
  | kept (before : Bool)
  | done
  | keys (posts listings : List String)

namespace Step

/-- Whether a step asks for a listing or a post, and so may make the cache keep it. -/
def asks : Step → Bool
  | .find _ => true
  | .list _ => true
  | .page _ _ => true
  | .call _ _ => true
  | _ => false

/-- Whether a step brings what the cache is to keep. -/
def brings : Step → Bool
  | .keepPost _ _ => true
  | .keepListing _ _ => true
  | _ => false

/-- Take a step; `built` is the date on which the site was built. -/
def run (portfolio : Portfolio) (built : String) (step : Step) (cache : Cache) : Answer × Cache :=
  match step with
  | .find slug =>
    let (result, cache) := cache.find slug
    (.post result, cache)
  | .list pattern =>
    let (result, cache) := cache.list pattern
    (.listing result, cache)
  | .page method address =>
    let (response, cache) := respond portfolio built method address cache
    (.page response, cache)
  | .call target query =>
    let (reply, cache) := target.reply query cache
    (.reply reply, cache)
  | .keepPost slug post => (.kept (cache.posts.has slug), cache.putPost slug post)
  | .keepListing pattern posts =>
    (.kept (cache.listings.has pattern), cache.putListing pattern posts)
  | .dropPost slug => (.kept (cache.posts.has slug), cache.dropPost slug)
  | .dropListing pattern => (.kept (cache.listings.has pattern), cache.dropListing pattern)
  | .clear => (.done, .empty)
  | .keys => (.keys cache.posts.keys cache.listings.keys, cache)

end Step

/-- The answers to steps that are taken one after the other, each with the cache behind it. -/
def session (portfolio : Portfolio) (built : String) : List Step → Cache → List (Answer × Cache)
  | [], _ => []
  | step :: rest, cache =>
    let outcome := step.run portfolio built cache
    outcome :: session portfolio built rest outcome.2

end Folio.Site
