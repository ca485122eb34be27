import Folio.Proofs.Blog.Cache
import Folio.Proofs.Blog.Listing

/-!
# Listing and lookup agree

A listing reads the front matter of its sources in a loop of its own, and a lookup reads one source
by itself. Both make of a source the same: a fault of its front matter, nothing, or the same entry.
So the listing of all posts has what the lookups of its sources give, and no lookup gives more.
-/

namespace Folio.Blog

open Folio.Pattern (Regex)

/-- A slug and a text as a source that can be read. -/
def Source.ofText (entry : String × String) : Source := .readable entry.1 entry.2

/-- A lookup of a source fails with a fault of its front matter. -/
def Rejected (entry : String × String) (fault : Fault) : Prop :=
  Post.read entry.1 entry.2 = .error fault ∧ ∃ slug, fault = .frontMatter slug

/-- The entry of the post that a lookup of a source accepts. -/
def accepted? (entry : String × String) : Option Meta :=
  (Post.read entry.1 entry.2).toOption.map Post.summary

/-- The accepted entries are those of the posts. -/
theorem accepted?_eq_some_iff {entry : String × String} {summary : Meta} :
    accepted? entry = some summary ↔
      ∃ post, Post.read entry.1 entry.2 = .ok post ∧ post.summary = summary := by
  rw [accepted?]
  cases Post.read entry.1 entry.2 <;> simp [Except.toOption]

/-- A search for nothing faults a source exactly when a lookup rejects it, and with the same
fault. -/
theorem faults_ofText_iff {regex : Regex} {entry : String × String} {fault : Fault} :
    (Source.ofText entry).Faults ⟨"", regex⟩ fault ↔ Rejected entry fault := by
  constructor
  · intro hfault
    cases hfault with
    | malformed slug raw _ hfront => exact ⟨Post.read_of_none hfront, entry.1, rfl⟩
  · rintro ⟨hread, slug, rfl⟩
    rcases Post.read_cases entry.1 entry.2 with
      ⟨hfront, h⟩ | ⟨-, -, -, -, h⟩ | ⟨front, body, -, -, h⟩
    · rw [h, Except.error.injEq] at hread
      exact hread ▸ .malformed entry.1 entry.2 (Or.inl rfl) hfront
    · rw [h] at hread
      cases hread
    · rw [h] at hread
      cases hread

/-- A search for nothing lists what a lookup accepts. -/
theorem listed?_ofText (regex : Regex) (entry : String × String) :
    (Source.ofText entry).listed? ⟨"", regex⟩ = accepted? entry := by
  have hfinds : (⟨"", regex⟩ : Search).finds entry.2 = true := Search.finds_iff.mpr (Or.inl rfl)
  rw [accepted?]
  rcases Post.read_cases entry.1 entry.2 with
    ⟨hfront, h⟩ | ⟨front, body, hfront, hdraft, h⟩ | ⟨front, body, hfront, hdraft, h⟩
  · simp [Source.ofText, Source.listed?, hfront, h, Except.toOption]
  · simp [Source.ofText, Source.listed?, hfront, hdraft, h, Except.toOption]
  · simp [Source.ofText, Source.listed?, hfront, hfinds, hdraft, h, Except.toOption]

/-- A fault of the first source that a lookup rejects. -/
def FirstRejected (sources : List (String × String)) (fault : Fault) : Prop :=
  ∃ earlier entry later, sources = earlier ++ entry :: later ∧
    (∀ other ∈ earlier, ∀ fault, ¬ Rejected other fault) ∧ Rejected entry fault

/-- The first fault of a search for nothing is that of the first source that a lookup rejects. -/
theorem firstFault_ofText_iff {regex : Regex} {sources : List (String × String)} {fault : Fault} :
    FirstFault ⟨"", regex⟩ (sources.map Source.ofText) fault ↔ FirstRejected sources fault := by
  constructor
  · rintro ⟨earlier, source, later, hsources, hearlier, hfault⟩
    obtain ⟨before, rest, rfl, rfl, hrest⟩ := List.map_eq_append_iff.mp hsources
    obtain ⟨entry, after, rfl, rfl, rfl⟩ := List.map_eq_cons_iff.mp hrest
    refine ⟨before, entry, after, rfl, ?_, faults_ofText_iff.mp hfault⟩
    intro other hother fault hrejected
    exact hearlier _ (List.mem_map_of_mem hother) fault (faults_ofText_iff.mpr hrejected)
  · rintro ⟨earlier, entry, later, rfl, hearlier, hrejected⟩
    refine ⟨earlier.map Source.ofText, Source.ofText entry, later.map Source.ofText, by simp, ?_,
      faults_ofText_iff.mpr hrejected⟩
    intro other hother fault hfault
    obtain ⟨before, hbefore, rfl⟩ := List.mem_map.mp hother
    exact hearlier before hbefore fault (faults_ofText_iff.mp hfault)

/-- The pattern for nothing is one. -/
theorem compile_nothing : ∃ regex, Pattern.compile "".toList = .ok regex :=
  ⟨.empty, compile_empty⟩

/-- The listing of all posts and the lookups of its sources agree: the listing fails as the first
lookup that rejects its source, and otherwise has the entries of the accepted sources; the other
sources are not found. -/
structure ListingAgrees (sources : List (String × String)) : Prop where
  fails_iff : (∃ fault, index (sources.map Source.ofText) "" = .error fault) ↔
    ∃ entry ∈ sources, ∃ fault, Rejected entry fault
  fault_iff : ∀ fault, index (sources.map Source.ofText) "" = .error fault ↔
    FirstRejected sources fault
  perm : ∀ posts, index (sources.map Source.ofText) "" = .ok posts →
    posts.Perm (sources.filterMap accepted?)
  listed_or_missing : ∀ posts, index (sources.map Source.ofText) "" = .ok posts →
    ∀ entry ∈ sources,
      (∃ post, Post.read entry.1 entry.2 = .ok post ∧ post.summary ∈ posts) ∨
        Post.read entry.1 entry.2 = .error (.notFound entry.1)

/-- The listing of any sources agrees with the lookups. -/
theorem listingAgrees (sources : List (String × String)) : ListingAgrees sources := by
  obtain ⟨regex, hcompile⟩ := compile_nothing
  have hfault : ∀ fault, index (sources.map Source.ofText) "" = .error fault ↔
      FirstRejected sources fault := by
    intro fault
    rw [index_eq_error_iff hcompile, firstFault_ofText_iff]
  have hlisted : Source.listed? ⟨"", regex⟩ ∘ Source.ofText = accepted? :=
    funext fun entry => listed?_ofText regex entry
  have hperm : ∀ posts, index (sources.map Source.ofText) "" = .ok posts →
      posts.Perm (sources.filterMap accepted?) := by
    intro posts hposts
    have hlisting := ((index_eq_ok_iff hcompile).mp hposts).2.perm
    rwa [List.filterMap_map, hlisted] at hlisting
  refine ⟨?_, hfault, hperm, ?_⟩
  · simp only [index_eq_error_iff hcompile]
    rw [exists_firstFault_iff]
    constructor
    · rintro ⟨source, hsource, fault, hfault⟩
      obtain ⟨entry, hentry, rfl⟩ := List.mem_map.mp hsource
      exact ⟨entry, hentry, fault, faults_ofText_iff.mp hfault⟩
    · rintro ⟨entry, hentry, fault, hrejected⟩
      exact ⟨_, List.mem_map_of_mem hentry, fault, faults_ofText_iff.mpr hrejected⟩
  · intro posts hposts entry hentry
    rcases Post.read_cases entry.1 entry.2 with
      ⟨-, h⟩ | ⟨-, -, -, -, h⟩ | ⟨front, body, -, -, h⟩
    · have hnone := ((index_eq_ok_iff hcompile).mp hposts).1 _ (List.mem_map_of_mem hentry)
      exact absurd (faults_ofText_iff.mpr ⟨h, entry.1, rfl⟩) (hnone _)
    · exact Or.inr h
    · refine Or.inl ⟨_, h, (hperm posts hposts).mem_iff.mpr ?_⟩
      exact List.mem_filterMap.mpr ⟨entry, hentry, accepted?_eq_some_iff.mpr ⟨_, h, rfl⟩⟩

namespace Archive

/-- A slug has a post, and then it is one of the slugs of the site, or it is not found. -/
theorem post_cases (slug : String) :
    (slug ∈ slugs ∧ ∃ answer, post slug = .ok answer) ∨
      post slug = .error (.notFound slug) := by
  by_cases hslug : slug ∈ slugs
  · obtain ⟨text, front, body, hraw, hfront⟩ := front_of_mem_slugs hslug
    rw [post_of_raw hraw]
    cases hdraft : front.draft with
    | true => exact Or.inr (Post.read_of_draft hfront hdraft)
    | false => exact Or.inl ⟨hslug, _, Post.read_of_published hfront hdraft⟩
  · exact Or.inr (post_of_raw_error (raw_of_not_mem_slugs hslug))

/-- No source of the site spoils a listing. -/
theorem not_faults_of_mem_found (search : Search) {source : Source} (hsource : source ∈ found)
    (fault : Fault) : ¬ source.Faults search fault := by
  obtain ⟨slug, hslug, rfl⟩ := List.mem_map.mp hsource
  obtain ⟨text, front, body, hraw, hfront⟩ := front_of_mem_slugs hslug
  rw [source_of_raw hraw]
  exact Source.not_faults_of_some search hfront fault

/-- A source of the site is listed with the entry of its post. -/
theorem listed?_source_iff (regex : Regex) {slug : String} (hslug : slug ∈ slugs)
    {summary : Meta} :
    (source slug).listed? ⟨"", regex⟩ = some summary ↔
      ∃ answer, post slug = .ok answer ∧ answer.summary = summary := by
  obtain ⟨text, -, -, hraw, -⟩ := front_of_mem_slugs hslug
  have hsource : source slug = Source.ofText (slug, text) := source_of_raw hraw
  rw [hsource, listed?_ofText, accepted?_eq_some_iff, post_of_raw hraw]

/-- The site has a listing of all posts, and its entries are those of the posts that are found. -/
theorem listing_all :
    ∃ posts, listing "" = .ok posts ∧
      ∀ summary, summary ∈ posts ↔
        ∃ slug answer, post slug = .ok answer ∧ answer.summary = summary := by
  obtain ⟨regex, hcompile⟩ := compile_nothing
  let entries := found.filterMap (Source.listed? ⟨"", regex⟩)
  have hlisting : listing "" = .ok (newestFirst entries) :=
    (index_eq_ok_iff hcompile).mpr
      ⟨fun _ hsource => not_faults_of_mem_found _ hsource, newestFirst_isListing entries⟩
  refine ⟨newestFirst entries, hlisting, ?_⟩
  intro summary
  rw [(newestFirst_perm entries).mem_iff, List.mem_filterMap]
  constructor
  · rintro ⟨source, hsource, hlisted⟩
    obtain ⟨slug, hslug, rfl⟩ := List.mem_map.mp hsource
    exact ⟨slug, (listed?_source_iff regex hslug).mp hlisted⟩
  · rintro ⟨slug, answer, hpost, hsummary⟩
    rcases post_cases slug with ⟨hslug, -⟩ | hmissing
    · exact ⟨source slug, List.mem_map_of_mem hslug,
        (listed?_source_iff regex hslug).mpr ⟨answer, hpost, hsummary⟩⟩
    · rw [hmissing] at hpost
      cases hpost

end Archive

/-- A lookup of a post fails only because the post is not there, whatever is kept. -/
theorem Cache.find_fault {cache : Cache} {slug : String} {fault : Fault}
    (h : (cache.find slug).1 = .error fault) : fault = .notFound slug := by
  rcases cache.find_cases slug with
    ⟨post, -, hfind⟩ | ⟨-, reason, hreason, hfind⟩ | ⟨-, post, -, hfind⟩
  · rw [hfind] at h
    cases h
  · rw [hfind] at h
    cases h
    rcases Archive.post_cases slug with ⟨-, post, hpost⟩ | hmissing
    · rw [hpost] at hreason
      cases hreason
    · rw [hmissing] at hreason
      exact (Except.error.inj hreason).symm
  · rw [hfind] at h
    cases h

end Folio.Blog
