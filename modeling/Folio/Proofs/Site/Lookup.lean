import Folio.Proofs.Blog.Cache
import Folio.Site.Session

/-!
# What requests ask of the cache

Every request looks up one thing at most: a listing or a post. Which one is settled by the request
alone. The cache behind the request is the cache behind that lookup, and the answer depends on the
cache by what the lookup finds and by nothing else.
-/

namespace Folio.Site

open Folio.Blog (Cache Fault Meta Post)

/-- What a request asks of the cache. -/
inductive Lookup where
  | nothing
  | listing (pattern : String)
  | post (slug : String)
  deriving DecidableEq

/-- What a lookup finds. -/
inductive Found where
  | nothing
  | listing (result : Except Fault (List Meta))
  | post (result : Except Fault Post)

namespace Lookup

/-- Look up what is asked. -/
def run (cache : Cache) : Lookup → Found × Cache
  | .nothing => (.nothing, cache)
  | .listing pattern => (.listing (cache.list pattern).1, (cache.list pattern).2)
  | .post slug => (.post (cache.find slug).1, (cache.find slug).2)

/-- What a lookup finds if only the sources are asked. -/
def fresh : Lookup → Found
  | .nothing => .nothing
  | .listing pattern => .listing (Blog.Archive.listing pattern)
  | .post slug => .post (Blog.Archive.post slug)

/-- A lookup in a faithful cache finds what the sources give and keeps the cache faithful. -/
theorem run_of_faithful {cache : Cache} (h : cache.Faithful) (lookup : Lookup) :
    (lookup.run cache).1 = lookup.fresh ∧ (lookup.run cache).2.Faithful := by
  cases lookup with
  | nothing => exact ⟨rfl, h⟩
  | listing pattern => exact ⟨congrArg Found.listing (h.list pattern).1, (h.list pattern).2⟩
  | post slug => exact ⟨congrArg Found.post (h.find slug).1, (h.find slug).2⟩

end Lookup

/-- A request looks up one thing: the cache behind it is that behind the lookup, and its answer
depends on the cache by what is found only. -/
structure Asks {α : Type} (request : Cache → α × Cache) (lookup : Lookup) : Prop where
  cache_eq : ∀ cache, (request cache).2 = (lookup.run cache).2
  answer_eq : ∀ cache other, (lookup.run cache).1 = (lookup.run other).1 →
    (request cache).1 = (request other).1

/-- A request to a faithful cache is answered as if nothing were kept. -/
theorem Asks.answer_of_faithful {α : Type} {request : Cache → α × Cache} {lookup : Lookup}
    (h : Asks request lookup) {cache : Cache} (hcache : cache.Faithful) :
    (request cache).1 = (request .empty).1 := by
  apply h.answer_eq
  rw [(lookup.run_of_faithful hcache).1, (lookup.run_of_faithful .empty).1]

/-- A request keeps a cache faithful. -/
theorem Asks.faithful {α : Type} {request : Cache → α × Cache} {lookup : Lookup}
    (h : Asks request lookup) {cache : Cache} (hcache : cache.Faithful) :
    (request cache).2.Faithful := by
  rw [h.cache_eq]
  exact (lookup.run_of_faithful hcache).2

/-- What the page of some segments looks up. -/
def displayLookup (segments : List (List Char)) : Lookup :=
  match pageOf? segments with
  | some .listing => .listing ""
  | some (.post slug) => .post slug
  | some .home => .nothing
  | none => .nothing

/-- Showing a page looks up what the page shows. -/
theorem display_asks (portfolio : Portfolio) (segments : List (List Char)) :
    Asks (display portfolio segments) (displayLookup segments) := by
  constructor
  · intro cache
    cases hpage : pageOf? segments with
    | none => simp only [display, displayLookup, hpage, Lookup.run]
    | some page => cases page <;> simp only [display, displayLookup, hpage, Lookup.run]
  · intro cache other hfound
    cases hpage : pageOf? segments with
    | none => simp only [display, hpage]
    | some page =>
      simp only [displayLookup, hpage] at hfound
      cases page with
      | home => simp only [display, hpage]
      | listing =>
        have hlist : (cache.list "").1 = (other.list "").1 := Found.listing.inj hfound
        simp only [display, hpage, hlist]
      | post slug =>
        have hfind : (cache.find slug).1 = (other.find slug).1 := Found.post.inj hfound
        simp only [display, hpage, hfind]

/-- Whether a request for an address is refused: there is a page, but the request is not one for
reading. -/
def isRefused (method address : String) : Bool :=
  isPagePath (pathOf address.toList) && !(method = "GET" || method = "HEAD")

/-- What a request for an address looks up. -/
def respondLookup (method address : String) : Lookup :=
  if isRefused method address then .nothing
  else displayLookup (segmentsOf (pathOf address.toList))

/-- A refused request shows nothing and leaves the cache as it is. -/
theorem respond_of_refused {method address : String} (h : isRefused method address = true)
    (portfolio : Portfolio) (built : String) (cache : Cache) :
    respond portfolio built method address cache =
      ({ status := 405, document := none, resources := [] }, cache) := by
  rw [isRefused] at h
  simp only [respond, h, if_true]

/-- The answer to a request that is not refused, from what its page shows. -/
def responseTo (portfolio : Portfolio) (built method address : String) (shown : Shown) :
    Response :=
  let path := pathOf address.toList
  let status := if isPagePath path && !shown.missing then 200 else 404
  if method = "HEAD" then { status, document := none, resources := [] }
  else
    { status
      document := some
        { title := shown.title
          sidebar := sidebar portfolio.profile (segmentsOf path) built
          main := shown.main }
      resources := shown.resources }

/-- A request that is not refused shows the page of its address. -/
theorem respond_of_not_refused {method address : String} (h : isRefused method address = false)
    (portfolio : Portfolio) (built : String) (cache : Cache) :
    respond portfolio built method address cache =
      (responseTo portfolio built method address
          (display portfolio (segmentsOf (pathOf address.toList)) cache).1,
        (display portfolio (segmentsOf (pathOf address.toList)) cache).2) := by
  rw [isRefused] at h
  simp only [respond, h, responseTo, Bool.false_eq_true, if_false]
  split <;> rfl

/-- A request for an address looks up what its page shows, unless it is refused. -/
theorem respond_asks (portfolio : Portfolio) (built method address : String) :
    Asks (respond portfolio built method address) (respondLookup method address) := by
  cases h : isRefused method address with
  | true =>
    rw [respondLookup, h, if_pos rfl]
    constructor
    · intro cache
      rw [respond_of_refused h]
      rfl
    · intro cache other _
      rw [respond_of_refused h, respond_of_refused h]
  | false =>
    have hdisplay := display_asks portfolio (segmentsOf (pathOf address.toList))
    rw [respondLookup, h, if_neg Bool.false_ne_true]
    constructor
    · intro cache
      rw [respond_of_not_refused h, hdisplay.cache_eq]
    · intro cache other hfound
      rw [respond_of_not_refused h, respond_of_not_refused h, hdisplay.answer_eq cache other hfound]

/-- What a call looks up: what its argument names, if the query has one. -/
def Call.lookup (call : Call) (query : String) : Lookup :=
  match readArgument call.argument query with
  | .error _ => .nothing
  | .ok argument =>
    match call with
    | .listPosts => .listing argument
    | .getPost => .post argument

/-- A call looks up what its argument names. -/
theorem Call.reply_asks (call : Call) (query : String) :
    Asks (call.reply query) (call.lookup query) := by
  constructor
  · intro cache
    cases hargument : readArgument call.argument query with
    | error fault => simp only [Call.reply, Call.lookup, hargument, Lookup.run]
    | ok argument => cases call <;> simp only [Call.reply, Call.lookup, hargument, Lookup.run]
  · intro cache other hfound
    cases hargument : readArgument call.argument query with
    | error fault => simp only [Call.reply, hargument]
    | ok argument =>
      simp only [Call.lookup, hargument] at hfound
      cases call with
      | listPosts =>
        have hlist : (cache.list argument).1 = (other.list argument).1 := Found.listing.inj hfound
        simp only [Call.reply, hargument, hlist]
      | getPost =>
        have hfind : (cache.find argument).1 = (other.find argument).1 := Found.post.inj hfound
        simp only [Call.reply, hargument, hfind]

/-- What a step looks up, if it asks for anything. -/
def Step.lookup? : Step → Option Lookup
  | .find slug => some (.post slug)
  | .list pattern => some (.listing pattern)
  | .page method address => some (respondLookup method address)
  | .call target query => some (target.lookup query)
  | _ => none

/-- The steps that ask are those that look up something. -/
theorem Step.asks_iff {step : Step} : step.asks = true ↔ ∃ lookup, step.lookup? = some lookup := by
  cases step <;> simp [Step.asks, Step.lookup?]

/-- A step that asks looks up one thing. -/
theorem Step.run_asks (portfolio : Portfolio) (built : String) {step : Step} {lookup : Lookup}
    (h : step.lookup? = some lookup) : Asks (step.run portfolio built) lookup := by
  cases step with
  | find slug =>
    cases h
    exact ⟨fun _ => rfl,
      fun cache other hfound => congrArg Answer.post (Found.post.inj hfound)⟩
  | list pattern =>
    cases h
    exact ⟨fun _ => rfl,
      fun cache other hfound => congrArg Answer.listing (Found.listing.inj hfound)⟩
  | page method address =>
    cases h
    have hrespond := respond_asks portfolio built method address
    exact ⟨fun cache => hrespond.cache_eq cache,
      fun cache other hfound => congrArg Answer.page (hrespond.answer_eq cache other hfound)⟩
  | call target query =>
    cases h
    have hreply := target.reply_asks query
    exact ⟨fun cache => hreply.cache_eq cache,
      fun cache other hfound => congrArg Answer.reply (hreply.answer_eq cache other hfound)⟩
  | keepPost | keepListing | dropPost | dropListing | clear | keys => cases h

end Folio.Site
