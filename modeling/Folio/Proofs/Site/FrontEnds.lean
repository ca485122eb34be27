import Folio.Proofs.Blog.Record
import Folio.Proofs.Site.Query
import Folio.Proofs.Site.Status

/-!
# Pages, calls and lookups agree

A post and a listing can be asked for in three ways: by a lookup, by a call with an encoded
argument, and by the page of an encoded address. All three look up the same and leave the same
behind; a call and a page write what is found in ways of their own, from which it can be read back.
The page of a post decodes its slug once more than a call does, so the two ask for one post only
where that changes nothing.
-/

namespace Folio.Site

open Folio.Blog (Cache Fault Meta Post)
open Folio.Json (Record Value)

/-- A reply gives a result: a text that is read back as what was found, or the reason why nothing
was. -/
def Reply.Gives {α : Type} [Record α] (failure : Nat) (reply : Reply) : Except Fault α → Prop
  | .ok a => reply.status = 200 ∧ Record.parse (reply.body.toList.map some) = .ok a
  | .error fault => reply.status = failure ∧ reply.body = "ServerError|" ++ fault.message

/-- A resource gives a result: a value whose text is read back as what was found, or the reason why
nothing was. -/
def ResourceGives {α : Type} [Record α] (resource : Value) : Except Fault α → Prop
  | .ok a => ∃ value, resource = .object [("Ok", value)] ∧
    Record.parse (value.print.map some) = .ok a
  | .error fault => resource = .object [("Err", .object [("ServerError", .text fault.message)])]

/-- A page hands over a result: one resource, which gives it. -/
def Response.HandsOver {α : Type} [Record α] (response : Response) (result : Except Fault α) :
    Prop :=
  ∃ resource, response.resources = [resource] ∧ ResourceGives resource result

variable {α : Type} [Record α]

/-- The reply to a call gives its result. -/
theorem Reply.gives_ofResult (h : Record.Lawful α) (failure : Nat) (result : Except Fault α) :
    (Reply.ofResult failure result).Gives failure result := by
  cases result with
  | ok a =>
    refine ⟨rfl, ?_⟩
    rw [Reply.ofResult, String.toList_ofList]
    exact Record.parse_print h a
  | error fault => exact ⟨rfl, rfl⟩

/-- The resource of a result gives the result. -/
theorem resourceGives_resultValue (h : Record.Lawful α) (result : Except Fault α) :
    ResourceGives (resultValue result) result := by
  cases result with
  | ok a => exact ⟨_, rfl, Record.parse_print h a⟩
  | error fault => rfl

/-- A call for a post gives the post that its argument names. -/
theorem reply_getPost (slug : String) (cache : Cache) :
    (Call.reply .getPost (queryOf "slug" slug) cache).1.Gives 404 (cache.find slug).1 ∧
      (Call.reply .getPost (queryOf "slug" slug) cache).2 = (cache.find slug).2 := by
  have hargument : readArgument (Call.argument .getPost) (queryOf "slug" slug) = .ok slug :=
    readArgument_queryOf ⟨by decide, List.all_eq_true.mp (by decide)⟩ slug
  simp only [Call.reply, hargument]
  refine ⟨?_, trivial⟩
  cases hfind : (cache.find slug).1 with
  | ok post => exact Reply.gives_ofResult Blog.Post.lawful _ (.ok post)
  | error fault =>
    obtain rfl := Blog.Cache.find_fault hfind
    exact ⟨rfl, rfl⟩

/-- A call for a listing gives the listing that its argument names. -/
theorem reply_listPosts (pattern : String) (cache : Cache) :
    (Call.reply .listPosts (queryOf "pattern" pattern) cache).1.Gives 500 (cache.list pattern).1 ∧
      (Call.reply .listPosts (queryOf "pattern" pattern) cache).2 = (cache.list pattern).2 := by
  have hargument : readArgument (Call.argument .listPosts) (queryOf "pattern" pattern) =
      .ok pattern :=
    readArgument_queryOf ⟨by decide, List.all_eq_true.mp (by decide)⟩ pattern
  simp only [Call.reply, hargument]
  exact ⟨Reply.gives_ofResult Blog.Meta.fitted.list.lawful 500 _, trivial⟩

variable {portfolio : Portfolio} {built slug : String} {cache : Cache}

/-- The status of the page of a post. -/
def pageStatus : Except Fault Post → Nat
  | .ok _ => 200
  | .error _ => 404

/-- Reading is never refused. -/
theorem isRefused_get (address : String) : isRefused "GET" address = false := by
  simp [isRefused]

/-- The page of a post gives what a lookup of its slug finds. -/
structure PageGives (portfolio : Portfolio) (built address slug : String) (cache : Cache) :
    Prop where
  handsOver : (respond portfolio built "GET" address cache).1.HandsOver (cache.find slug).1
  status_eq : (respond portfolio built "GET" address cache).1.status =
    pageStatus (cache.find slug).1
  cache_eq : (respond portfolio built "GET" address cache).2 = (cache.find slug).2

/-- An address under which there is the page of a post gives what a lookup of that post finds. -/
theorem pageGives_of_pageOf? {address : String} (hpath : isPagePath (pathOf address.toList) = true)
    (hpage : pageOf? (segmentsOf (pathOf address.toList)) = some (.post slug)) :
    PageGives portfolio built address slug cache := by
  have hrespond := respond_of_not_refused (isRefused_get address) portfolio built cache
  have hresources : (respond portfolio built "GET" address cache).1.resources =
      [resultValue (cache.find slug).1] := by
    rw [hrespond, responseTo, if_neg (by decide)]
    simp only [display, hpage]
  refine ⟨⟨_, hresources, resourceGives_resultValue Blog.Post.lawful _⟩, ?_, ?_⟩
  · rw [respond_status (isRefused_get address), hpath]
    simp only [display, hpage]
    cases hfind : (cache.find slug).1 with
    | ok post => rfl
    | error fault =>
      obtain rfl := Blog.Cache.find_fault hfind
      rfl
  · rw [hrespond]
    simp only [display, hpage]

/-- The page of an encoded slug gives what a lookup of the slug finds, decoded once more. -/
theorem pageGives_postAddress (h : IsSegment slug) :
    PageGives portfolio built (postAddress slug) (String.ofList (decodeText slug.toList)) cache :=
  pageGives_of_pageOf? (isPagePath_postAddress h) (pageOf?_postAddress h)

/-- The page of the listing hands over the listing of all posts. -/
theorem respond_listing (portfolio : Portfolio) (built : String) (cache : Cache) :
    (respond portfolio built "GET" "/blog" cache).1.HandsOver (cache.list "").1 ∧
      (respond portfolio built "GET" "/blog" cache).1.status = 200 ∧
      (respond portfolio built "GET" "/blog" cache).2 = (cache.list "").2 := by
  have hrespond := respond_of_not_refused (isRefused_get "/blog") portfolio built cache
  have hpage : pageOf? (segmentsOf (pathOf "/blog".toList)) = some .listing := by decide
  have hresources : (respond portfolio built "GET" "/blog" cache).1.resources =
      [resultValue (cache.list "").1] := by
    rw [hrespond, responseTo, if_neg (by decide)]
    simp only [display, hpage]
  refine ⟨⟨_, hresources, resourceGives_resultValue Blog.Meta.fitted.list.lawful _⟩, ?_, ?_⟩
  · rw [respond_status (isRefused_get "/blog"), show isPagePath (pathOf "/blog".toList) = true by
      decide]
    simp only [display, hpage]
    rfl
  · rw [hrespond]
    simp only [display, hpage]

/-- Lookups, calls and pages agree over a cache. A call with an encoded argument gives what a lookup
of the argument finds, and so does the page of an encoded slug that is the same when it is decoded;
the page of any other slug gives what is found for the decoded one. The page of the listing gives
the listing of all posts. All leave the cache that the lookup leaves. -/
structure FrontEndsAgree (portfolio : Portfolio) (built : String) (cache : Cache) : Prop where
  post_call : ∀ slug,
    (Call.reply .getPost (queryOf "slug" slug) cache).1.Gives 404 (cache.find slug).1 ∧
      (Call.reply .getPost (queryOf "slug" slug) cache).2 = (cache.find slug).2
  post_page : ∀ slug, IsSegment slug → decodeText slug.toList = slug.toList →
    PageGives portfolio built (postAddress slug) slug cache
  post_page_decoded : ∀ slug, IsSegment slug →
    PageGives portfolio built (postAddress slug) (String.ofList (decodeText slug.toList)) cache
  listing_call : ∀ pattern,
    (Call.reply .listPosts (queryOf "pattern" pattern) cache).1.Gives 500 (cache.list pattern).1 ∧
      (Call.reply .listPosts (queryOf "pattern" pattern) cache).2 = (cache.list pattern).2
  listing_page : (respond portfolio built "GET" "/blog" cache).1.HandsOver (cache.list "").1 ∧
    (respond portfolio built "GET" "/blog" cache).1.status = 200 ∧
    (respond portfolio built "GET" "/blog" cache).2 = (cache.list "").2

/-- Lookups, calls and pages agree, whatever is kept. -/
theorem front_ends_agree (portfolio : Portfolio) (built : String) (cache : Cache) :
    FrontEndsAgree portfolio built cache where
  post_call slug := reply_getPost slug cache
  post_page slug hsegment hdecode := by
    have hgives : PageGives portfolio built (postAddress slug) _ cache :=
      pageGives_postAddress hsegment
    rwa [hdecode, String.ofList_toList] at hgives
  post_page_decoded _ := pageGives_postAddress
  listing_call pattern := reply_listPosts pattern cache
  listing_page := respond_listing portfolio built cache

/-- A cache with a post whose slug has an escape. -/
def escapedCache : Cache := Cache.empty.putPost "a%20b" default

/-- A lookup and a call find a post whose slug has an escape, but the page of its encoded slug is
that of a post that is not there. -/
theorem front_ends_escape :
    postAddress "a%20b" = "/blog/a%2520b" ∧
      (escapedCache.find "a%20b").1 = .ok default ∧
      (Call.reply .getPost (queryOf "slug" "a%20b") escapedCache).1.status = 200 ∧
      (respond .embedded "today" "GET" (postAddress "a%20b") escapedCache).1.status = 404 := by
  have hfind : escapedCache.find "a%20b" = (.ok default, escapedCache) :=
    Cache.find_of_kept (by decide)
  have hcall := (reply_getPost "a%20b" escapedCache).1
  have hpage : PageGives .embedded "today" (postAddress "a%20b") _ escapedCache :=
    pageGives_postAddress ⟨by decide, by decide, by decide⟩
  rw [hfind] at hcall
  refine ⟨by decide +kernel, by rw [hfind], hcall.1, ?_⟩
  rw [hpage.status_eq]
  decide +kernel

end Folio.Site
