import Folio.Proofs.Blog.Growth
import Folio.Proofs.Site.Lookup

/-!
# Requests only add to the cache

Whatever is kept, and wherever it came from, a request changes nothing of it. It may add one thing,
which is also what it answers: the post or the listing of all posts that it looked up, as the
sources give it. A request whose lookup fails, a search, and a request that shows neither a listing
nor a post add nothing.
-/

namespace Folio.Site

open Folio.Blog (Archive.listing Archive.post Cache Fault Meta Post)
open Folio.Json (Record)

/-- An answer gives a post: as it is, as the text of a reply, or as the page that is shown, if the
request was not for the status alone. -/
def Answer.GivesPost (portfolio : Portfolio) (post : Post) : Answer → Prop
  | .post result => result = .ok post
  | .reply written => written = { status := 200, body := String.ofList (Record.print post) }
  | .page response => ∀ document, response.document = some document →
    document.main = blogFrame portfolio.profile (postView (.ok post))
  | _ => False

/-- An answer gives a listing: as it is, as the text of a reply, or as the page that is shown, if
the request was not for the status alone. -/
def Answer.GivesListing (portfolio : Portfolio) (posts : List Meta) : Answer → Prop
  | .listing result => result = .ok posts
  | .reply written => written = { status := 200, body := String.ofList (Record.print posts) }
  | .page response => ∀ document, response.document = some document →
    ∃ segments, document.main = blogFrame portfolio.profile (listingView segments (.ok posts))
  | _ => False

/-- Why a lookup failed, if it did. -/
def Found.fault? : Found → Option Fault
  | .listing (.error fault) => some fault
  | .post (.error fault) => some fault
  | _ => none

variable {portfolio : Portfolio} {built method address query : String} {cache : Cache}
  {slug pattern : String}

/-- A page that looks up a post is the page of that post. -/
theorem pageOf?_of_post {segments : List (List Char)}
    (h : displayLookup segments = .post slug) : pageOf? segments = some (.post slug) := by
  rw [displayLookup] at h
  split at h <;> simp_all

/-- A page that looks up a listing is the listing of all posts. -/
theorem pageOf?_of_listing {segments : List (List Char)}
    (h : displayLookup segments = .listing pattern) :
    pageOf? segments = some .listing ∧ pattern = "" := by
  rw [displayLookup] at h
  split at h <;> simp_all

/-- A request for an address that looks up something is not refused. -/
theorem not_refused_of_lookup (h : respondLookup method address ≠ .nothing) :
    isRefused method address = false ∧
      respondLookup method address = displayLookup (segmentsOf (pathOf address.toList)) := by
  rw [respondLookup] at h ⊢
  cases hrefused : isRefused method address with
  | true => simp [hrefused] at h
  | false => exact ⟨rfl, by simp⟩

/-- The document of an answer has the main part of what is shown. -/
theorem responseTo_main {shown : Shown} {document : Document}
    (h : (responseTo portfolio built method address shown).document = some document) :
    document.main = shown.main := by
  rw [responseTo] at h
  split at h
  · cases h
  · cases h
    rfl

/-- A request for an address gives the post that it looks up. -/
theorem respond_gives_post (hlookup : respondLookup method address = .post slug) {post : Post}
    (hfind : (cache.find slug).1 = .ok post) :
    (Answer.page (respond portfolio built method address cache).1).GivesPost portfolio post := by
  have hasks : respondLookup method address ≠ .nothing := by simp [hlookup]
  obtain ⟨hrefused, hdisplay⟩ := not_refused_of_lookup hasks
  have hpage := pageOf?_of_post (hdisplay.symm.trans hlookup)
  intro document hdocument
  rw [respond_of_not_refused hrefused] at hdocument
  rw [responseTo_main hdocument]
  simp only [display, hpage, hfind]

/-- A request for an address gives the listing that it looks up. -/
theorem respond_gives_listing (hlookup : respondLookup method address = .listing pattern)
    {posts : List Meta} (hlist : (cache.list "").1 = .ok posts) :
    (Answer.page
      (respond portfolio built method address cache).1).GivesListing portfolio posts := by
  have hasks : respondLookup method address ≠ .nothing := by simp [hlookup]
  obtain ⟨hrefused, hdisplay⟩ := not_refused_of_lookup hasks
  have hpage := (pageOf?_of_listing (hdisplay.symm.trans hlookup)).1
  intro document hdocument
  rw [respond_of_not_refused hrefused] at hdocument
  refine ⟨segmentsOf (pathOf address.toList), ?_⟩
  rw [responseTo_main hdocument]
  simp only [display, hpage, hlist]

/-- A call gives the post that it looks up. -/
theorem reply_gives_post {target : Call} (hlookup : target.lookup query = .post slug) {post : Post}
    (hfind : (cache.find slug).1 = .ok post) :
    (Answer.reply (target.reply query cache).1).GivesPost portfolio post := by
  cases hargument : readArgument target.argument query with
  | error fault => simp [Call.lookup, hargument] at hlookup
  | ok argument =>
    cases target with
    | listPosts => simp [Call.lookup, hargument] at hlookup
    | getPost =>
      simp only [Call.lookup, hargument, Lookup.post.injEq] at hlookup
      subst hlookup
      simp only [Answer.GivesPost, Call.reply, hargument, hfind, Reply.ofResult]

/-- A call gives the listing that it looks up. -/
theorem reply_gives_listing {target : Call} (hlookup : target.lookup query = .listing pattern)
    {posts : List Meta} (hlist : (cache.list pattern).1 = .ok posts) :
    (Answer.reply (target.reply query cache).1).GivesListing portfolio posts := by
  cases hargument : readArgument target.argument query with
  | error fault => simp [Call.lookup, hargument] at hlookup
  | ok argument =>
    cases target with
    | getPost => simp [Call.lookup, hargument] at hlookup
    | listPosts =>
      simp only [Call.lookup, hargument, Lookup.listing.injEq] at hlookup
      subst hlookup
      simp only [Answer.GivesListing, Call.reply, hargument, hlist, Reply.ofResult]

/-- A request gives the post that it looks up. -/
theorem Step.gives_post {step : Step} (hlookup : step.lookup? = some (.post slug)) {post : Post}
    (hfind : (cache.find slug).1 = .ok post) :
    (step.run portfolio built cache).1.GivesPost portfolio post := by
  cases step with
  | find slug =>
    cases hlookup
    exact hfind
  | list pattern => cases hlookup
  | page method address => exact respond_gives_post (Option.some.inj hlookup) hfind
  | call target query => exact reply_gives_post (Option.some.inj hlookup) hfind
  | keepPost | keepListing | dropPost | dropListing | clear | keys => cases hlookup

/-- A request gives the listing of all posts if it looks that up. -/
theorem Step.gives_listing {step : Step} (hlookup : step.lookup? = some (.listing ""))
    {posts : List Meta} (hlist : (cache.list "").1 = .ok posts) :
    (step.run portfolio built cache).1.GivesListing portfolio posts := by
  cases step with
  | find slug => cases hlookup
  | list pattern =>
    cases hlookup
    exact hlist
  | page method address => exact respond_gives_listing (Option.some.inj hlookup) hlist
  | call target query => exact reply_gives_listing (Option.some.inj hlookup) hlist
  | keepPost | keepListing | dropPost | dropListing | clear | keys => cases hlookup

/-- What one request may do to what is kept, given what it looks up: nothing is lost or changed, and
what is new was looked up, comes from the sources and is what is answered. -/
structure AddsOnly (portfolio : Portfolio) (lookup : Lookup) (before : Cache)
    (outcome : Answer × Cache) : Prop where
  preserves : Cache.Preserves before outcome.2
  new_post : ∀ slug post, outcome.2.posts.get? slug = some post →
    before.posts.get? slug = some post ∨
      lookup = .post slug ∧ Archive.post slug = .ok post ∧ outcome.1.GivesPost portfolio post
  new_listing : ∀ pattern posts, outcome.2.listings.get? pattern = some posts →
    before.listings.get? pattern = some posts ∨
      pattern = "" ∧ lookup = .listing "" ∧ Archive.listing "" = .ok posts ∧
        outcome.1.GivesListing portfolio posts
  of_fault : ∀ fault, (lookup.run before).1.fault? = some fault → outcome.2 = before
  of_search : ∀ pattern, lookup = .listing pattern → pattern ≠ "" → outcome.2 = before
  of_nothing : lookup = .nothing → outcome.2 = before
  of_shows_nothing : (∀ post, ¬ outcome.1.GivesPost portfolio post) →
    (∀ posts, ¬ outcome.1.GivesListing portfolio posts) → outcome.2 = before

/-- A request that leaves the cache as it is adds nothing. -/
theorem AddsOnly.of_eq {lookup : Lookup} {before : Cache} {outcome : Answer × Cache}
    (h : outcome.2 = before) : AddsOnly portfolio lookup before outcome where
  preserves := h ▸ .refl _
  new_post _ _ hpost := Or.inl (h ▸ hpost)
  new_listing _ _ hposts := Or.inl (h ▸ hposts)
  of_fault _ _ := h
  of_search _ _ _ := h
  of_nothing _ := h
  of_shows_nothing _ _ := h

/-- A request that looks up a post adds at most that post. -/
theorem Step.adds_post {step : Step} (hlookup : step.lookup? = some (.post slug)) (cache : Cache) :
    AddsOnly portfolio (.post slug) cache (step.run portfolio built cache) := by
  have hcache : (step.run portfolio built cache).2 = (cache.find slug).2 :=
    (Step.run_asks portfolio built hlookup).cache_eq cache
  rcases cache.find_effect slug with heq | ⟨post, hnone, hpost, hfind⟩
  · exact .of_eq (hcache.trans heq)
  · have hgives : (step.run portfolio built cache).1.GivesPost portfolio post :=
      Step.gives_post hlookup (by rw [hfind])
    rw [hfind] at hcache
    refine ⟨hcache ▸ Cache.preserves_putPost hnone post, ?_, ?_, ?_, ?_, ?_, ?_⟩
    · intro key kept hkept
      rw [hcache, Cache.putPost, Store.Table.get?_put] at hkept
      split at hkept
      · next hkey =>
        cases hkept
        exact Or.inr ⟨by rw [hkey], hkey ▸ hpost, hgives⟩
      · exact Or.inl hkept
    · intro pattern posts hposts
      rw [hcache] at hposts
      exact Or.inl hposts
    · intro fault hfault
      rw [Lookup.run, hfind] at hfault
      cases hfault
    · intro pattern h
      cases h
    · intro h
      cases h
    · intro hno _
      exact absurd hgives (hno post)

/-- A request that looks up a listing adds at most the listing of all posts. -/
theorem Step.adds_listing {step : Step} (hlookup : step.lookup? = some (.listing pattern))
    (cache : Cache) :
    AddsOnly portfolio (.listing pattern) cache (step.run portfolio built cache) := by
  have hcache : (step.run portfolio built cache).2 = (cache.list pattern).2 :=
    (Step.run_asks portfolio built hlookup).cache_eq cache
  rcases cache.list_effect pattern with heq | ⟨rfl, posts, hnone, hposts, hlist⟩
  · exact .of_eq (hcache.trans heq)
  · have hgives : (step.run portfolio built cache).1.GivesListing portfolio posts :=
      Step.gives_listing hlookup (by rw [hlist])
    rw [hlist] at hcache
    refine ⟨hcache ▸ Cache.preserves_putListing hnone posts, ?_, ?_, ?_, ?_, ?_, ?_⟩
    · intro slug post hpost
      rw [hcache] at hpost
      exact Or.inl hpost
    · intro key kept hkept
      rw [hcache, Cache.putListing, Store.Table.get?_put] at hkept
      split at hkept
      · next hkey =>
        cases hkept
        exact Or.inr ⟨hkey, rfl, hposts, hgives⟩
      · exact Or.inl hkept
    · intro fault hfault
      rw [Lookup.run, hlist] at hfault
      cases hfault
    · intro pattern h hpattern
      cases h
      exact absurd rfl hpattern
    · intro h
      cases h
    · intro _ hno
      exact absurd hgives (hno posts)

/-- A request adds at most what it looks up. -/
theorem Step.adds {step : Step} {lookup : Lookup} (hlookup : step.lookup? = some lookup)
    (cache : Cache) : AddsOnly portfolio lookup cache (step.run portfolio built cache) := by
  cases lookup with
  | nothing => exact .of_eq ((Step.run_asks portfolio built hlookup).cache_eq cache)
  | listing pattern => exact Step.adds_listing hlookup cache
  | post slug => exact Step.adds_post hlookup cache

/-- Requests only add to what is kept, whatever it is, and never if they fail; and what a lookup
finds depends on what is kept under its own key only, a search on nothing that is kept. -/
theorem requests_add_only (portfolio : Portfolio) (built : String) :
    (∀ step : Step, step.asks = true → ∃ lookup, step.lookup? = some lookup ∧
      ∀ cache, AddsOnly portfolio lookup cache (step.run portfolio built cache)) ∧
    (∀ pattern, pattern ≠ "" → ∀ cache other : Cache,
      (cache.list pattern).1 = (other.list pattern).1) ∧
    (∀ slug (cache other : Cache), cache.posts.get? slug = other.posts.get? slug →
      (cache.find slug).1 = (other.find slug).1) ∧
    ∀ cache other : Cache, cache.listings.get? "" = other.listings.get? "" →
      (cache.list "").1 = (other.list "").1 := by
  refine ⟨?_, fun _ => Cache.list_search_congr, fun _ _ _ => Cache.find_congr,
    fun _ _ => Cache.list_congr⟩
  intro step hasks
  obtain ⟨lookup, hlookup⟩ := Step.asks_iff.mp hasks
  exact ⟨lookup, hlookup, Step.adds hlookup⟩

/-- A cache whose only post is not the one that the site has under its slug. -/
def strayCache : Cache := Cache.empty.putPost "elsewhere" default

/-- A request for a post with that cache behind it, a search, and a request for the listing. -/
theorem requests_add_only_stray :
    (Step.call .getPost "slug=constrained_decoding_overview").asks = true ∧
    (∃ lookup,
      (Step.call .getPost "slug=constrained_decoding_overview").lookup? = some lookup ∧
      ∀ cache, AddsOnly .embedded lookup cache
        ((Step.call .getPost "slug=constrained_decoding_overview").run .embedded "today" cache)) ∧
    (strayCache.list "json").1 = (Cache.empty.list "json").1 ∧
    (strayCache.find "missing").1 = (Cache.empty.find "missing").1 ∧
    (strayCache.list "").1 = (Cache.empty.list "").1 := by
  obtain ⟨hadds, hsearch, hfind, hlist⟩ := requests_add_only .embedded "today"
  exact ⟨rfl, hadds _ rfl, hsearch "json" (by decide) strayCache .empty,
    hfind "missing" strayCache .empty (by decide), hlist strayCache .empty rfl⟩

end Folio.Site
