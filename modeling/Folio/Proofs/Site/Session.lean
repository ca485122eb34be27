import Folio.Proofs.Blog.Agreement
import Folio.Proofs.Blog.Concurrency
import Folio.Proofs.Site.Lookup
import Mathlib.Data.List.Forall2

/-!
# Sessions do not show the cache

As long as nothing is brought in from outside, the cache stays faithful through a session: every
step that asks keeps only what the sources give, and removals keep less. So who asks cannot tell
what is kept. Each answer is the one that the same step gets when nothing is kept, the listing names
exactly the posts that can be opened, and any number of calls may run side by side without one
noticing the others.
-/

namespace Folio.Site

open Folio.Blog

variable (portfolio : Portfolio) (built : String)

/-- The caches that sessions lead to in which nothing is brought in. -/
inductive Reachable : Cache → Prop where
  | empty : Reachable .empty
  | step {cache : Cache} (hcache : Reachable cache) (step : Step) (hstep : step.brings = false) :
      Reachable (step.run portfolio built cache).2

variable {portfolio built}

/-- A step that brings nothing in keeps a cache faithful. -/
theorem Step.run_faithful {step : Step} (hstep : step.brings = false) {cache : Cache}
    (hcache : cache.Faithful) : (step.run portfolio built cache).2.Faithful := by
  cases hlookup : step.lookup? with
  | some lookup => exact (Step.run_asks portfolio built hlookup).faithful hcache
  | none =>
    cases step with
    | find | list | page | call => cases hlookup
    | keepPost | keepListing => cases hstep
    | dropPost slug => exact hcache.dropPost slug
    | dropListing pattern => exact hcache.dropListing pattern
    | clear => exact .empty
    | keys => exact hcache

/-- A step that asks is answered by a faithful cache as if nothing were kept. -/
theorem Step.answer_of_faithful {step : Step} (hasks : step.asks = true) {cache : Cache}
    (hcache : cache.Faithful) :
    (step.run portfolio built cache).1 = (step.run portfolio built .empty).1 := by
  obtain ⟨lookup, hlookup⟩ := Step.asks_iff.mp hasks
  exact (Step.run_asks portfolio built hlookup).answer_of_faithful hcache

/-- Caches that sessions lead to are faithful. -/
theorem Reachable.faithful {cache : Cache} (h : Reachable portfolio built cache) :
    cache.Faithful := by
  induction h with
  | empty => exact .empty
  | step _ step hstep ih => exact step.run_faithful hstep ih

/-- A step of a session, its answer and the cache behind it: who asks is answered as if nothing were
kept, and nothing is kept but what the sources give. -/
def Transparent (portfolio : Portfolio) (built : String) (step : Step)
    (outcome : Answer × Cache) : Prop :=
  (step.asks = true → outcome.1 = (step.run portfolio built .empty).1) ∧ outcome.2.Faithful

/-- A session from a faithful cache does not show the cache. -/
theorem session_of_faithful (steps : List Step) (hsteps : ∀ step ∈ steps, step.brings = false)
    {cache : Cache} (hcache : cache.Faithful) :
    List.Forall₂ (Transparent portfolio built) steps (session portfolio built steps cache) := by
  induction steps generalizing cache with
  | nil => exact .nil
  | cons step rest ih =>
    rw [List.forall_mem_cons] at hsteps
    have hnext : (step.run portfolio built cache).2.Faithful :=
      step.run_faithful hsteps.1 hcache
    exact .cons ⟨fun hasks => step.answer_of_faithful hasks hcache, hnext⟩ (ih hsteps.2 hnext)

/-- A session in which nothing is brought in does not show the cache: who asks is answered as if
nothing were kept, whatever was asked and forgotten before. Behind every step each post that is kept
is what the source of its slug gives and no draft, and no listing is kept but the one of all posts
under the empty pattern. -/
theorem session_transparent (portfolio : Portfolio) (built : String) (steps : List Step)
    (hsteps : ∀ step ∈ steps, step.brings = false) :
    List.Forall₂ (Transparent portfolio built) steps (session portfolio built steps .empty) :=
  session_of_faithful steps hsteps .empty

/-- A visit to the site: a post twice, the listing in three ways, and removals in between. -/
def visit : List Step :=
  [.find "constrained_decoding_overview", .list "", .page "GET" "/blog", .keys,
    .dropPost "constrained_decoding_overview", .call .getPost "slug=constrained_decoding_overview",
    .dropListing "", .call .listPosts "pattern=", .clear, .page "HEAD" "/blog/missing"]

/-- That visit does not show the cache. -/
theorem session_transparent_visit :
    (∀ step ∈ visit, step.brings = false) ∧
      List.Forall₂ (Transparent .embedded "today") visit
        (session .embedded "today" visit .empty) :=
  ⟨by decide, session_transparent .embedded "today" visit (by decide)⟩

/-- A cache finds the posts that it lists: those and no others, with the entries that are listed.
Every other slug is not found. -/
structure FindsListed (cache : Cache) (posts : List Meta) : Prop where
  listing_eq : (cache.list "").1 = .ok posts
  found_iff : ∀ slug,
    (∃ post, (cache.find slug).1 = .ok post) ↔ ∃ entry ∈ posts, entry.slug = slug
  summary_eq : ∀ slug post, (cache.find slug).1 = .ok post →
    ∀ entry ∈ posts, entry.slug = slug → entry = post.summary
  missing : ∀ slug, (∀ entry ∈ posts, entry.slug ≠ slug) →
    (cache.find slug).1 = .error (.notFound slug)

/-- A faithful cache finds the posts that it lists. -/
theorem findsListed_of_faithful {cache : Cache} (hcache : cache.Faithful) :
    ∃ posts, FindsListed cache posts := by
  obtain ⟨posts, hlisting, hposts⟩ := Archive.listing_all
  have hfind : ∀ slug, (cache.find slug).1 = Archive.post slug :=
    fun slug => (hcache.find slug).1
  have hfound : ∀ slug,
      (∃ post, Archive.post slug = .ok post) ↔ ∃ entry ∈ posts, entry.slug = slug := by
    intro slug
    constructor
    · rintro ⟨post, hpost⟩
      exact ⟨post.summary, (hposts _).mpr ⟨slug, post, hpost, rfl⟩, Archive.slug_of_post hpost⟩
    · rintro ⟨entry, hentry, rfl⟩
      obtain ⟨slug, post, hpost, rfl⟩ := (hposts entry).mp hentry
      exact ⟨post, by rw [Archive.slug_of_post hpost, hpost]⟩
  refine ⟨posts, (hcache.list "").1.trans hlisting, ?_, ?_, ?_⟩
  · intro slug
    rw [hfind]
    exact hfound slug
  · rintro slug post hpost entry hentry rfl
    obtain ⟨slug, other, hother, rfl⟩ := (hposts entry).mp hentry
    rw [hfind, Archive.slug_of_post hother, hother, Except.ok.injEq] at hpost
    rw [hpost]
  · intro slug hmissing
    rw [hfind]
    rcases Archive.post_cases slug with ⟨-, hpost⟩ | hpost
    · obtain ⟨entry, hentry, hentrySlug⟩ := (hfound slug).mp hpost
      exact absurd hentrySlug (hmissing entry hentry)
    · exact hpost

/-- Listing and lookup agree: on any sources that can be read, and on the site itself in every cache
that sessions lead to in which nothing is brought in. -/
theorem listing_lookup_agree :
    (∀ sources : List (String × String), ListingAgrees sources) ∧
      ∀ (portfolio : Portfolio) (built : String) (cache : Cache),
        Reachable portfolio built cache → ∃ posts, FindsListed cache posts :=
  ⟨listingAgrees, fun _ _ _ hcache => findsListed_of_faithful hcache.faithful⟩

/-- The cache behind the first request for the listing. -/
theorem listing_lookup_agree_listed :
    Reachable .embedded "today" ((Step.list "").run .embedded "today" .empty).2 ∧
      ∃ posts, FindsListed ((Step.list "").run .embedded "today" .empty).2 posts :=
  ⟨.step .empty (.list "") rfl,
    listing_lookup_agree.2 .embedded "today" _ (.step .empty (.list "") rfl)⟩

/-- Calls that run side by side do no harm, from whatever the site keeps when they begin. -/
theorem concurrent_calls_harmless {portfolio : Portfolio} {built : String} {start : Cache}
    (hstart : Reachable portfolio built start) (requests : List Request) (events : List Event) :
    Harmless start requests events :=
  harmless_of_faithful hstart.faithful requests events

/-- Two calls for one post that both miss, a removal between their insertions, and a listing. -/
theorem concurrent_calls_harmless_crossed :
    Reachable .embedded "today" .empty ∧
      Harmless .empty
        [.post "constrained_decoding_overview", .post "constrained_decoding_overview",
          .listing ""]
        [.turn 0, .turn 1, .turn 0, .turn 1, .turn 2, .turn 0, .clear, .turn 1, .turn 2,
          .turn 2] :=
  ⟨.empty, concurrent_calls_harmless (.empty : Reachable .embedded "today" .empty) _ _⟩

end Folio.Site
