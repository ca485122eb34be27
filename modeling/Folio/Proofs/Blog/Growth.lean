import Folio.Proofs.Blog.Cache

/-!
# Lookups only add to the cache

What is kept before a lookup is kept behind it, and at most one thing is new: what was looked up, as
the sources give it. A lookup that fails leaves everything as it was, and so does a search. What a
lookup finds depends on what is kept under its own key and on nothing else.
-/

namespace Folio.Blog.Cache

/-- Everything that is kept before is kept after, with the same value. -/
structure Preserves (before after : Cache) : Prop where
  posts : ∀ slug post, before.posts.get? slug = some post → after.posts.get? slug = some post
  listings : ∀ pattern posts,
    before.listings.get? pattern = some posts → after.listings.get? pattern = some posts

variable {cache other : Cache} {slug pattern : String}

/-- A cache preserves itself. -/
theorem Preserves.refl (cache : Cache) : Preserves cache cache :=
  ⟨fun _ _ h => h, fun _ _ h => h⟩

/-- What is preserved twice is preserved. -/
theorem Preserves.trans {before between after : Cache} (h : Preserves before between)
    (h' : Preserves between after) : Preserves before after :=
  ⟨fun slug post hpost => h'.posts slug post (h.posts slug post hpost),
    fun pattern posts hposts => h'.listings pattern posts (h.listings pattern posts hposts)⟩

/-- Keeping a post under a new slug changes nothing else. -/
theorem preserves_putPost (h : cache.posts.get? slug = none) (post : Post) :
    Preserves cache (cache.putPost slug post) := by
  refine ⟨?_, fun _ _ hposts => hposts⟩
  intro key kept hkept
  have hne : key ≠ slug := by
    rintro rfl
    rw [h] at hkept
    cases hkept
  rw [putPost, Store.Table.get?_put_of_ne _ _ hne, hkept]

/-- Keeping a listing under a new pattern changes nothing else. -/
theorem preserves_putListing (h : cache.listings.get? pattern = none) (posts : List Meta) :
    Preserves cache (cache.putListing pattern posts) := by
  refine ⟨fun _ _ hpost => hpost, ?_⟩
  intro key kept hkept
  have hne : key ≠ pattern := by
    rintro rfl
    rw [h] at hkept
    cases hkept
  rw [putListing, Store.Table.get?_put_of_ne _ _ hne, hkept]

/-- The effect of looking for a post: nothing, or the post that was found is new. -/
theorem find_effect (cache : Cache) (slug : String) :
    (cache.find slug).2 = cache ∨
      ∃ post, cache.posts.get? slug = none ∧ Archive.post slug = .ok post ∧
        cache.find slug = (.ok post, cache.putPost slug post) := by
  rcases cache.find_cases slug with
    ⟨post, -, hfind⟩ | ⟨-, fault, -, hfind⟩ | ⟨hnone, post, hpost, hfind⟩
  · exact Or.inl (by rw [hfind])
  · exact Or.inl (by rw [hfind])
  · exact Or.inr ⟨post, hnone, hpost, hfind⟩

/-- The effect of looking for a listing: nothing, or the listing of all posts is new. -/
theorem list_effect (cache : Cache) (pattern : String) :
    (cache.list pattern).2 = cache ∨
      pattern = "" ∧ ∃ posts, cache.listings.get? "" = none ∧ Archive.listing "" = .ok posts ∧
        cache.list pattern = (.ok posts, cache.putListing "" posts) := by
  by_cases hpattern : pattern = ""
  · subst hpattern
    rcases cache.list_cases with
      ⟨posts, -, hlist⟩ | ⟨-, fault, -, hlist⟩ | ⟨hnone, posts, hposts, hlist⟩
    · exact Or.inl (by rw [hlist])
    · exact Or.inl (by rw [hlist])
    · exact Or.inr ⟨rfl, posts, hnone, hposts, hlist⟩
  · exact Or.inl (by rw [list_of_search hpattern])

/-- The post that is found depends on what is kept under its slug. -/
theorem find_congr (h : cache.posts.get? slug = other.posts.get? slug) :
    (cache.find slug).1 = (other.find slug).1 := by
  cases hkept : other.posts.get? slug with
  | some post => rw [find_of_kept (h.trans hkept), find_of_kept hkept]
  | none =>
    cases hpost : Archive.post slug with
    | error fault => rw [find_of_fault (h.trans hkept) hpost, find_of_fault hkept hpost]
    | ok post => rw [find_of_post (h.trans hkept) hpost, find_of_post hkept hpost]

/-- The listing of all posts that is found depends on what is kept under the empty pattern. -/
theorem list_congr (h : cache.listings.get? "" = other.listings.get? "") :
    (cache.list "").1 = (other.list "").1 := by
  cases hkept : other.listings.get? "" with
  | some posts => rw [list_of_kept (h.trans hkept), list_of_kept hkept]
  | none =>
    cases hlisting : Archive.listing "" with
    | error fault => rw [list_of_fault (h.trans hkept) hlisting, list_of_fault hkept hlisting]
    | ok posts => rw [list_of_posts (h.trans hkept) hlisting, list_of_posts hkept hlisting]

/-- What a search finds depends on nothing that is kept. -/
theorem list_search_congr (h : pattern ≠ "") (cache other : Cache) :
    (cache.list pattern).1 = (other.list pattern).1 := by
  rw [list_of_search h, list_of_search h]

end Folio.Blog.Cache
