import Folio.Blog.Cache
import Folio.Proofs.Blog.Archive

/-!
# What the cache keeps

A lookup has one of three outcomes: what is kept is answered as it is, and without it a fault is
answered and not kept, or what the sources give is answered and kept. A cache is faithful if it
keeps nothing but what the sources give. Lookups and removals leave it so, and a lookup in a
faithful cache is answered as if nothing were kept.
-/

namespace Folio.Blog

/-- The post that the source of a slug gives. -/
def Archive.post (slug : String) : Except Fault Post := Archive.raw slug >>= Post.read slug

/-- The listing that the sources give under a pattern. -/
def Archive.listing (pattern : String) : Except Fault (List Meta) := index Archive.found pattern

/-- The post of a slug is read from the text of its source. -/
theorem Archive.post_of_raw {slug text : String} (hraw : Archive.raw slug = .ok text) :
    Archive.post slug = Post.read slug text := by
  rw [Archive.post, hraw]
  rfl

/-- Without a text there is no post. -/
theorem Archive.post_of_raw_error {slug : String} {fault : Fault}
    (hraw : Archive.raw slug = .error fault) : Archive.post slug = .error fault := by
  rw [Archive.post, hraw]
  rfl

/-- The posts that are given are those that can be read. -/
theorem Archive.post_eq_ok_iff {slug : String} {post : Post} :
    Archive.post slug = .ok post ↔
      ∃ raw, Archive.raw slug = .ok raw ∧ Post.read slug raw = .ok post := by
  cases hraw : Archive.raw slug with
  | error fault => simp [Archive.post_of_raw_error hraw]
  | ok raw => simp [Archive.post_of_raw hraw]

/-- The post of a slug has that slug. -/
theorem Archive.slug_of_post {slug : String} {post : Post} (h : Archive.post slug = .ok post) :
    post.summary.slug = slug := by
  obtain ⟨raw, -, hread⟩ := Archive.post_eq_ok_iff.mp h
  exact Post.slug_of_read hread

namespace Cache

variable {cache : Cache} {slug pattern : String}

/-- A post that is kept is found. -/
theorem find_of_kept {post : Post} (h : cache.posts.get? slug = some post) :
    cache.find slug = (.ok post, cache) := by
  rw [find, h]

/-- A fault is not kept. -/
theorem find_of_fault {fault : Fault} (h : cache.posts.get? slug = none)
    (hpost : Archive.post slug = .error fault) : cache.find slug = (.error fault, cache) := by
  rw [Archive.post] at hpost
  rw [find, h, hpost]

/-- A post that was read is kept. -/
theorem find_of_post {post : Post} (h : cache.posts.get? slug = none)
    (hpost : Archive.post slug = .ok post) :
    cache.find slug = (.ok post, cache.putPost slug post) := by
  rw [Archive.post] at hpost
  rw [find, h, hpost]
  rfl

/-- The outcomes of looking for a post. -/
theorem find_cases (cache : Cache) (slug : String) :
    (∃ post, cache.posts.get? slug = some post ∧ cache.find slug = (.ok post, cache)) ∨
    (cache.posts.get? slug = none ∧
      ∃ fault, Archive.post slug = .error fault ∧ cache.find slug = (.error fault, cache)) ∨
    (cache.posts.get? slug = none ∧
      ∃ post, Archive.post slug = .ok post ∧
        cache.find slug = (.ok post, cache.putPost slug post)) := by
  cases hkept : cache.posts.get? slug with
  | some post => exact Or.inl ⟨post, rfl, find_of_kept hkept⟩
  | none =>
    cases hpost : Archive.post slug with
    | error fault => exact Or.inr (Or.inl ⟨rfl, fault, rfl, find_of_fault hkept hpost⟩)
    | ok post => exact Or.inr (Or.inr ⟨rfl, post, rfl, find_of_post hkept hpost⟩)

/-- A search is not kept. -/
theorem list_of_search (h : pattern ≠ "") :
    cache.list pattern = (Archive.listing pattern, cache) := by
  have hpattern : pattern.isEmpty = false := by simpa using h
  rw [list, hpattern, Archive.listing]
  cases index Archive.found pattern <;> simp

/-- The listing that is kept is found. -/
theorem list_of_kept {posts : List Meta} (h : cache.listings.get? "" = some posts) :
    cache.list "" = (.ok posts, cache) := by
  simp [list, h]

/-- A fault is not kept. -/
theorem list_of_fault {fault : Fault} (h : cache.listings.get? "" = none)
    (hlisting : Archive.listing "" = .error fault) : cache.list "" = (.error fault, cache) := by
  have hempty : "".isEmpty = true := rfl
  rw [Archive.listing] at hlisting
  rw [list, hempty, if_pos rfl, h, hlisting]

/-- The listing of all posts is kept. -/
theorem list_of_posts {posts : List Meta} (h : cache.listings.get? "" = none)
    (hlisting : Archive.listing "" = .ok posts) :
    cache.list "" = (.ok posts, cache.putListing "" posts) := by
  have hempty : "".isEmpty = true := rfl
  rw [Archive.listing] at hlisting
  rw [list, hempty, if_pos rfl, h, hlisting]
  rfl

/-- The outcomes of looking for the listing of all posts. -/
theorem list_cases (cache : Cache) :
    (∃ posts, cache.listings.get? "" = some posts ∧ cache.list "" = (.ok posts, cache)) ∨
    (cache.listings.get? "" = none ∧
      ∃ fault, Archive.listing "" = .error fault ∧ cache.list "" = (.error fault, cache)) ∨
    (cache.listings.get? "" = none ∧
      ∃ posts, Archive.listing "" = .ok posts ∧
        cache.list "" = (.ok posts, cache.putListing "" posts)) := by
  cases hkept : cache.listings.get? "" with
  | some posts => exact Or.inl ⟨posts, rfl, list_of_kept hkept⟩
  | none =>
    cases hlisting : Archive.listing "" with
    | error fault => exact Or.inr (Or.inl ⟨rfl, fault, rfl, list_of_fault hkept hlisting⟩)
    | ok posts => exact Or.inr (Or.inr ⟨rfl, posts, rfl, list_of_posts hkept hlisting⟩)

/-- A post is what the source of a slug gives, and the source is no draft. -/
structure Published (slug : String) (post : Post) : Prop where
  slug_eq : post.summary.slug = slug
  read : ∃ raw, Archive.raw slug = .ok raw ∧ Post.read slug raw = .ok post ∧
    ∃ front body, FrontMatter.read? raw.toList = some (front, body) ∧ front.draft = false

/-- Nothing is kept but what the sources give: posts that are no drafts, each under its own slug,
and under the empty pattern the listing of all posts. -/
structure Faithful (cache : Cache) : Prop where
  posts : ∀ slug post, (slug, post) ∈ cache.posts.entries → Published slug post
  listings : ∀ pattern posts, (pattern, posts) ∈ cache.listings.entries →
    pattern = "" ∧ index Archive.found "" = .ok posts

/-- The published posts are those that the sources give. -/
theorem published_iff {post : Post} : Published slug post ↔ Archive.post slug = .ok post := by
  rw [Archive.post_eq_ok_iff]
  constructor
  · rintro ⟨-, raw, hraw, hread, -⟩
    exact ⟨raw, hraw, hread⟩
  · rintro ⟨raw, hraw, hread⟩
    obtain ⟨front, body, hfront, hdraft, -⟩ := Post.read_eq_ok_iff.mp hread
    exact ⟨Post.slug_of_read hread, raw, hraw, hread, front, body, hfront, hdraft⟩

/-- A cache is faithful if what it says of each key is what the sources give. -/
theorem faithful_iff :
    cache.Faithful ↔
      (∀ slug post, cache.posts.get? slug = some post → Archive.post slug = .ok post) ∧
      ∀ pattern posts, cache.listings.get? pattern = some posts →
        pattern = "" ∧ Archive.listing "" = .ok posts := by
  simp only [← Store.Table.mem_entries_iff, ← published_iff]
  exact ⟨fun h => ⟨h.posts, h.listings⟩, fun h => ⟨h.1, h.2⟩⟩

/-- Nothing is kept that the sources do not give. -/
theorem Faithful.empty : Cache.empty.Faithful :=
  ⟨fun _ _ hmem => absurd hmem List.not_mem_nil, fun _ _ hmem => absurd hmem List.not_mem_nil⟩

/-- A published post may be kept. -/
theorem Faithful.putPost {post : Post} (h : cache.Faithful)
    (hpost : Archive.post slug = .ok post) : (cache.putPost slug post).Faithful := by
  obtain ⟨hposts, hlistings⟩ := faithful_iff.mp h
  refine faithful_iff.mpr ⟨?_, hlistings⟩
  intro other kept hkept
  by_cases hslug : other = slug
  · subst hslug
    rw [Cache.putPost, Store.Table.get?_put_self, Option.some.injEq] at hkept
    exact hkept ▸ hpost
  · rw [Cache.putPost, Store.Table.get?_put_of_ne _ _ hslug] at hkept
    exact hposts other kept hkept

/-- The listing of all posts may be kept. -/
theorem Faithful.putListing {posts : List Meta} (h : cache.Faithful)
    (hlisting : Archive.listing "" = .ok posts) : (cache.putListing "" posts).Faithful := by
  obtain ⟨hposts, hlistings⟩ := faithful_iff.mp h
  refine faithful_iff.mpr ⟨hposts, ?_⟩
  intro pattern kept hkept
  by_cases hpattern : pattern = ""
  · subst hpattern
    rw [Cache.putListing, Store.Table.get?_put_self, Option.some.injEq] at hkept
    exact ⟨rfl, hkept ▸ hlisting⟩
  · rw [Cache.putListing, Store.Table.get?_put_of_ne _ _ hpattern] at hkept
    exact hlistings pattern kept hkept

/-- Forgetting a post keeps a cache faithful. -/
theorem Faithful.dropPost (h : cache.Faithful) (slug : String) :
    (cache.dropPost slug).Faithful := by
  obtain ⟨hposts, hlistings⟩ := faithful_iff.mp h
  refine faithful_iff.mpr ⟨?_, hlistings⟩
  intro other kept hkept
  exact hposts other kept (Store.Table.get?_of_get?_drop hkept)

/-- Forgetting a listing keeps a cache faithful. -/
theorem Faithful.dropListing (h : cache.Faithful) (pattern : String) :
    (cache.dropListing pattern).Faithful := by
  obtain ⟨hposts, hlistings⟩ := faithful_iff.mp h
  refine faithful_iff.mpr ⟨hposts, ?_⟩
  intro other kept hkept
  exact hlistings other kept (Store.Table.get?_of_get?_drop hkept)

/-- Looking for a post in a faithful cache finds what the sources give and keeps it faithful. -/
theorem Faithful.find (h : cache.Faithful) (slug : String) :
    (cache.find slug).1 = Archive.post slug ∧ (cache.find slug).2.Faithful := by
  rcases cache.find_cases slug with
    ⟨post, hkept, hfind⟩ | ⟨-, fault, hfault, hfind⟩ | ⟨-, post, hpost, hfind⟩
  · rw [hfind, (faithful_iff.mp h).1 slug post hkept]
    exact ⟨rfl, h⟩
  · rw [hfind, hfault]
    exact ⟨rfl, h⟩
  · rw [hfind, hpost]
    exact ⟨rfl, h.putPost hpost⟩

/-- Looking for a listing in a faithful cache finds what the sources give and keeps it faithful. -/
theorem Faithful.list (h : cache.Faithful) (pattern : String) :
    (cache.list pattern).1 = Archive.listing pattern ∧ (cache.list pattern).2.Faithful := by
  by_cases hpattern : pattern = ""
  · subst hpattern
    rcases cache.list_cases with
      ⟨posts, hkept, hlist⟩ | ⟨-, fault, hfault, hlist⟩ | ⟨-, posts, hposts, hlist⟩
    · rw [hlist, ((faithful_iff.mp h).2 "" posts hkept).2]
      exact ⟨rfl, h⟩
    · rw [hlist, hfault]
      exact ⟨rfl, h⟩
    · rw [hlist, hposts]
      exact ⟨rfl, h.putListing hposts⟩
  · rw [list_of_search hpattern]
    exact ⟨rfl, h⟩

end Cache

end Folio.Blog
