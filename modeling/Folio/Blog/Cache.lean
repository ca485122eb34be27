import Folio.Blog.Archive

/-!
# Cached posts and listings

Posts that were read are kept by slug, and the listing of all posts under the empty pattern. What is
kept is answered as it is; what is not is made from the sources and then kept. A fault is never
kept.
-/

namespace Folio.Blog

open Folio.Store (Table)

/-- What is kept. -/
structure Cache where
  posts : Table Post
  listings : Table (List Meta)
  deriving Inhabited

namespace Cache

/-- Nothing kept. -/
def empty : Cache := ⟨.empty, .empty⟩

/-- The listing of the site's posts that a pattern matches. Only the listing of all of them is
kept. -/
def list (cache : Cache) (pattern : String) : Except Fault (List Meta) × Cache :=
  match if pattern.isEmpty then cache.listings.get? pattern else none with
  | some posts => (.ok posts, cache)
  | none =>
    match index Archive.found pattern with
    | .error fault => (.error fault, cache)
    | .ok posts =>
      if pattern.isEmpty then
        (.ok posts, { cache with listings := cache.listings.put pattern posts })
      else (.ok posts, cache)

/-- The post of a slug. -/
def find (cache : Cache) (slug : String) : Except Fault Post × Cache :=
  match cache.posts.get? slug with
  | some post => (.ok post, cache)
  | none =>
    match Archive.raw slug >>= Post.read slug with
    | .error fault => (.error fault, cache)
    | .ok post => (.ok post, { cache with posts := cache.posts.put slug post })

/-- Keep a post under a slug, in place of any other. -/
def putPost (cache : Cache) (slug : String) (post : Post) : Cache :=
  { cache with posts := cache.posts.put slug post }

/-- Keep a listing under a pattern, in place of any other. -/
def putListing (cache : Cache) (pattern : String) (posts : List Meta) : Cache :=
  { cache with listings := cache.listings.put pattern posts }

/-- Forget the post of a slug. -/
def dropPost (cache : Cache) (slug : String) : Cache :=
  { cache with posts := cache.posts.drop slug }

/-- Forget the listing of a pattern. -/
def dropListing (cache : Cache) (pattern : String) : Cache :=
  { cache with listings := cache.listings.drop pattern }

end Cache

end Folio.Blog
