import Folio.Blog.Listing

/-!
# The order of a listing

Sorting a listing loses and doubles nothing, puts the newest post first and leaves posts of one date
in the order in which they came. These three facts leave no choice: there is one listing of some
entries that has them.
-/

namespace Folio.Blog

/-- Some entries in the order of a listing. -/
structure IsListing (entries posts : List Meta) : Prop where
  perm : posts.Perm entries
  newest : posts.Pairwise fun a b => b.date.le a.date = true
  stable : ∀ date, posts.filter (·.date = date) = entries.filter (·.date = date)

/-- A post may stand in front of all that those behind it may stand in front of. -/
theorem Meta.leads_trans (a b c : Meta) (hab : a.leads b = true) (hbc : b.leads c = true) :
    a.leads c = true :=
  Calendar.Instant.le_trans hbc hab

/-- Of two posts one may stand in front of the other. -/
theorem Meta.leads_total (a b : Meta) : (a.leads b || b.leads a) = true := by
  rw [Bool.or_eq_true]
  exact Calendar.Instant.le_total b.date a.date

/-- Sorting keeps every entry as often as it is there. -/
theorem newestFirst_perm (entries : List Meta) : (newestFirst entries).Perm entries :=
  List.mergeSort_perm _ _

/-- No entry comes before a later one. -/
theorem newestFirst_pairwise (entries : List Meta) :
    (newestFirst entries).Pairwise fun a b => b.date.le a.date = true :=
  List.pairwise_mergeSort Meta.leads_trans Meta.leads_total entries

/-- Things sorted by date, the newest first, stay in their order where they are of one date. -/
theorem mergeSort_filter_date {α : Type} (dateOf : α → Calendar.Instant) (entries : List α)
    (date : Calendar.Instant) :
    (entries.mergeSort fun a b => (dateOf b).le (dateOf a)).filter (dateOf · = date) =
      entries.filter (dateOf · = date) := by
  let leads (a b : α) : Bool := (dateOf b).le (dateOf a)
  have htrans (a b c : α) (hab : leads a b = true) (hbc : leads b c = true) :
      leads a c = true := Calendar.Instant.le_trans hbc hab
  have htotal (a b : α) : (leads a b || leads b a) = true := by
    rw [Bool.or_eq_true]
    exact Calendar.Instant.le_total (dateOf b) (dateOf a)
  let same := entries.filter (dateOf · = date)
  have hdate : ∀ a ∈ same, dateOf a = date := by
    intro a ha
    simpa using (List.mem_filter.mp ha).2
  have hsorted : same.Pairwise fun a b => leads a b = true := by
    apply List.pairwise_of_forall_mem_list
    intro a ha b hb
    simp only [leads, hdate a ha, hdate b hb]
    exact Calendar.Instant.le_refl date
  -- A sorted part of a list is a part of the sorted list; here the lengths leave no room.
  have hpart : same.Sublist (entries.mergeSort leads) :=
    List.sublist_mergeSort htrans htotal hsorted List.filter_sublist
  have hself : same.filter (dateOf · = date) = same := by
    rw [List.filter_eq_self]
    intro a ha
    simpa using hdate a ha
  have hsublist : same.Sublist ((entries.mergeSort leads).filter (dateOf · = date)) := by
    simpa only [hself] using hpart.filter (dateOf · = date)
  exact (hsublist.eq_of_length
    ((List.mergeSort_perm entries leads).filter _).length_eq.symm).symm

/-- Entries of one date stay in their order. -/
theorem newestFirst_filter (entries : List Meta) (date : Calendar.Instant) :
    (newestFirst entries).filter (·.date = date) = entries.filter (·.date = date) :=
  mergeSort_filter_date Meta.date entries date

/-- Sorting makes a listing of any entries. -/
theorem newestFirst_isListing (entries : List Meta) : IsListing entries (newestFirst entries) :=
  ⟨newestFirst_perm entries, newestFirst_pairwise entries, newestFirst_filter entries⟩

/-- In a sorted list that begins with a post, none is later than that post. -/
theorem le_of_mem_sorted {post other : Meta} {rest : List Meta}
    (hsorted : (post :: rest).Pairwise fun a b => b.date.le a.date = true)
    (hmem : other ∈ post :: rest) : other.date.le post.date = true := by
  rcases List.mem_cons.mp hmem with rfl | hrest
  · exact Calendar.Instant.le_refl _
  · exact List.rel_of_pairwise_cons hsorted hrest

/-- Lists that agree on each date have the same members. -/
theorem mem_iff_of_filter {posts others : List Meta}
    (hfilter : ∀ date, posts.filter (·.date = date) = others.filter (·.date = date))
    (post : Meta) : post ∈ posts ↔ post ∈ others := by
  have h := congrArg (post ∈ ·) (hfilter post.date)
  simpa using h

/-- Sorted lists that agree on each date are equal. -/
theorem eq_of_sorted_of_filter {posts others : List Meta}
    (hposts : posts.Pairwise fun a b => b.date.le a.date = true)
    (hothers : others.Pairwise fun a b => b.date.le a.date = true)
    (hfilter : ∀ date, posts.filter (·.date = date) = others.filter (·.date = date)) :
    posts = others := by
  induction posts generalizing others with
  | nil =>
    cases others with
    | nil => rfl
    | cons other rest => simpa using mem_iff_of_filter hfilter other
  | cons post posts ih =>
    cases others with
    | nil => simpa using mem_iff_of_filter hfilter post
    | cons other others =>
      have hdate : post.date = other.date :=
        Calendar.Instant.le_antisymm
          (le_of_mem_sorted hothers ((mem_iff_of_filter hfilter post).mp List.mem_cons_self))
          (le_of_mem_sorted hposts ((mem_iff_of_filter hfilter other).mpr List.mem_cons_self))
      have hhead := hfilter post.date
      simp only [List.filter_cons, hdate, decide_true, if_true, List.cons.injEq] at hhead
      obtain ⟨rfl, -⟩ := hhead
      have htail : ∀ date, posts.filter (·.date = date) = others.filter (·.date = date) := by
        intro date
        have h := hfilter date
        by_cases hpost : post.date = date
        · simpa [List.filter_cons, hpost] using h
        · simpa [List.filter_cons, hpost] using h
      rw [ih hposts.of_cons hothers.of_cons htail]

/-- There is one listing of some entries. -/
theorem IsListing.eq_newestFirst {entries posts : List Meta} (h : IsListing entries posts) :
    posts = newestFirst entries := by
  apply eq_of_sorted_of_filter h.newest (newestFirst_pairwise entries)
  intro date
  rw [h.stable, newestFirst_filter]

/-- A list is the listing of some entries exactly when sorting them gives it. -/
theorem isListing_iff {entries posts : List Meta} :
    IsListing entries posts ↔ posts = newestFirst entries :=
  ⟨IsListing.eq_newestFirst, fun h => h ▸ newestFirst_isListing entries⟩

end Folio.Blog
