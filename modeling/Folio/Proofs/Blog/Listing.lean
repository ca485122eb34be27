import Folio.Proofs.Blog.Order
import Folio.Proofs.Blog.Source
import Mathlib.Data.List.Basic

/-!
# What a listing says

A search looks at its sources one after the other. A source can end it with a fault, can add one
entry, or adds nothing, and which of the three it is depends on that source and the search only. So
the first source with a fault decides a listing that fails, and a listing that does not fail has the
entries of all sources, in the order of listings.
-/

namespace Folio.Blog

open Folio.Pattern (Regex)

/-- A text is relevant to a search if the search is for nothing or its pattern is in the text. -/
def Search.Relevant (search : Search) (raw : String) : Prop :=
  search.pattern = "" ∨ search.regex.matchesIn raw.toList = true

/-- The texts that are found are the relevant ones. -/
theorem Search.finds_iff {search : Search} {raw : String} :
    search.finds raw = true ↔ search.Relevant raw := by
  simp [Search.finds, Search.Relevant]

/-- A source ends a search with a fault: it cannot be read, or it is relevant and its front matter
is missing or malformed. -/
inductive Source.Faults (search : Search) : Source → Fault → Prop where
  | broken (fault : Fault) : Faults search (.broken fault) fault
  | malformed (slug raw : String) (hrelevant : search.Relevant raw)
      (hfront : FrontMatter.read? raw.toList = none) :
      Faults search (.readable slug raw) (.frontMatter slug)

/-- What a source lists in a search: relevant front matter that is no draft. -/
def Source.listed? (search : Search) : Source → Option Meta
  | .broken _ => none
  | .readable slug raw =>
    match FrontMatter.read? raw.toList with
    | some (front, _) =>
      if search.finds raw && !front.draft then some (front.summary slug) else none
    | none => none

/-- A source with front matter has no fault in any search. -/
theorem Source.not_faults_of_some (search : Search) {slug raw : String} {front : FrontMatter}
    {body : List Char} (hfront : FrontMatter.read? raw.toList = some (front, body))
    (fault : Fault) : ¬ (Source.readable slug raw).Faults search fault := by
  intro hfault
  cases hfault with
  | malformed _ _ _ hnone =>
    rw [hfront] at hnone
    cases hnone

/-- A source that cannot be read adds its fault. -/
theorem Source.entry?_broken (search : Search) (fault : Fault) :
    Source.entry? search (.broken fault) = .error fault := rfl

/-- A source that is not relevant adds nothing, whatever it is. -/
theorem Source.entry?_of_not_relevant {search : Search} {slug raw : String}
    (h : ¬ search.Relevant raw) : Source.entry? search (.readable slug raw) = .ok none := by
  rw [← Search.finds_iff] at h
  simp [Source.entry?, h]

/-- A relevant source without front matter adds a fault. -/
theorem Source.entry?_of_none {search : Search} {slug raw : String} (h : search.Relevant raw)
    (hfront : FrontMatter.read? raw.toList = none) :
    Source.entry? search (.readable slug raw) = .error (.frontMatter slug) := by
  rw [← Search.finds_iff] at h
  rw [Source.entry?, if_pos h, readSource_of_none hfront]
  rfl

/-- A relevant source with front matter adds that, unless it is a draft. -/
theorem Source.entry?_of_some {search : Search} {slug raw : String} {front : FrontMatter}
    {body : List Char} (h : search.Relevant raw)
    (hfront : FrontMatter.read? raw.toList = some (front, body)) :
    Source.entry? search (.readable slug raw) =
      .ok (if front.draft then none else some (front.summary slug)) := by
  rw [← Search.finds_iff] at h
  rw [Source.entry?, if_pos h, readSource_of_some hfront]
  rfl

/-- A source that has a fault adds it. -/
theorem Source.Faults.entry?_eq {search : Search} {source : Source} {fault : Fault}
    (h : source.Faults search fault) : source.entry? search = .error fault := by
  cases h with
  | broken => exact Source.entry?_broken search fault
  | malformed slug raw hrelevant hfront => exact Source.entry?_of_none hrelevant hfront

/-- A source without fault adds what it lists. -/
theorem Source.entry?_of_no_fault {search : Search} {source : Source}
    (h : ∀ fault, ¬ source.Faults search fault) :
    source.entry? search = .ok (source.listed? search) := by
  cases source with
  | broken fault => exact absurd (.broken fault) (h fault)
  | readable slug raw =>
    by_cases hrelevant : search.Relevant raw
    · cases hfront : FrontMatter.read? raw.toList with
      | none => exact absurd (.malformed slug raw hrelevant hfront) (h _)
      | some parts =>
        have hfinds := Search.finds_iff.mpr hrelevant
        rw [Source.entry?_of_some hrelevant hfront]
        cases hdraft : parts.1.draft <;> simp [Source.listed?, hfront, hfinds, hdraft]
    · have hfinds : search.finds raw = false := by
        rw [← Bool.not_eq_true, Search.finds_iff]
        exact hrelevant
      rw [Source.entry?_of_not_relevant hrelevant]
      cases hfront : FrontMatter.read? raw.toList <;> simp [Source.listed?, hfront, hfinds]

/-- A fault of the first source that has any. -/
def FirstFault (search : Search) (sources : List Source) (fault : Fault) : Prop :=
  ∃ earlier source later, sources = earlier ++ source :: later ∧
    (∀ other ∈ earlier, ∀ fault, ¬ other.Faults search fault) ∧ source.Faults search fault

/-- A fault ends the entries of a search. -/
theorem entries_cons_of_faults {search : Search} {source : Source} {fault : Fault}
    (h : source.Faults search fault) (rest : List Source) :
    entries search (source :: rest) = .error fault := by
  rw [entries, h.entry?_eq]
  rfl

/-- Without a fault the entries go on with the rest. -/
theorem entries_cons_of_no_fault {search : Search} {source : Source}
    (h : ∀ fault, ¬ source.Faults search fault) (rest : List Source) :
    entries search (source :: rest) =
      (entries search rest).map ((source.listed? search).toList ++ ·) := by
  rw [entries, Source.entry?_of_no_fault h]
  cases entries search rest <;> rfl

/-- The entries of sources without faults are what the sources list. -/
theorem entries_of_no_fault {search : Search} {sources : List Source}
    (h : ∀ source ∈ sources, ∀ fault, ¬ source.Faults search fault) :
    entries search sources = .ok (sources.filterMap (Source.listed? search)) := by
  induction sources with
  | nil => rfl
  | cons source rest ih =>
    rw [entries_cons_of_no_fault (h source List.mem_cons_self),
      ih fun other hother => h other (List.mem_cons_of_mem _ hother), List.filterMap_cons]
    cases source.listed? search <;> rfl

/-- The first fault is that of the entries. -/
theorem entries_of_firstFault {search : Search} {sources : List Source} {fault : Fault}
    (h : FirstFault search sources fault) : entries search sources = .error fault := by
  obtain ⟨earlier, source, later, rfl, hearlier, hfault⟩ := h
  induction earlier with
  | nil => exact entries_cons_of_faults hfault later
  | cons other earlier ih =>
    rw [List.cons_append, entries_cons_of_no_fault (hearlier other List.mem_cons_self),
      ih fun source hsource => hearlier source (List.mem_cons_of_mem _ hsource)]
    rfl

/-- Among sources there is a first one with a fault, or there is no fault. -/
theorem firstFault_or_no_fault (search : Search) (sources : List Source) :
    (∃ fault, FirstFault search sources fault) ∨
      ∀ source ∈ sources, ∀ fault, ¬ source.Faults search fault := by
  induction sources with
  | nil => exact Or.inr fun source hsource => absurd hsource List.not_mem_nil
  | cons source rest ih =>
    by_cases hsource : ∃ fault, source.Faults search fault
    · obtain ⟨fault, hfault⟩ := hsource
      exact Or.inl ⟨fault, [], source, rest, rfl,
        fun other hother => absurd hother List.not_mem_nil, hfault⟩
    · have hnone : ∀ fault, ¬ source.Faults search fault := not_exists.mp hsource
      rcases ih with ⟨fault, earlier, other, later, rfl, hearlier, hfault⟩ | hrest
      · refine Or.inl ⟨fault, source :: earlier, other, later, rfl, ?_, hfault⟩
        exact List.forall_mem_cons.mpr ⟨hnone, hearlier⟩
      · exact Or.inr (List.forall_mem_cons.mpr ⟨hnone, hrest⟩)

/-- There is a first source with a fault exactly if any has one. -/
theorem exists_firstFault_iff {search : Search} {sources : List Source} :
    (∃ fault, FirstFault search sources fault) ↔
      ∃ source ∈ sources, ∃ fault, source.Faults search fault := by
  constructor
  · rintro ⟨fault, earlier, source, later, rfl, -, hfault⟩
    exact ⟨source, by simp, fault, hfault⟩
  · rintro ⟨source, hsource, fault, hfault⟩
    rcases firstFault_or_no_fault search sources with hfirst | hnone
    · exact hfirst
    · exact absurd hfault (hnone source hsource fault)

/-- The entries fail exactly with the first fault. -/
theorem entries_eq_error_iff {search : Search} {sources : List Source} {fault : Fault} :
    entries search sources = .error fault ↔ FirstFault search sources fault := by
  refine ⟨fun h => ?_, entries_of_firstFault⟩
  rcases firstFault_or_no_fault search sources with ⟨first, hfirst⟩ | hnone
  · rw [entries_of_firstFault hfirst, Except.error.injEq] at h
    exact h ▸ hfirst
  · rw [entries_of_no_fault hnone] at h
    cases h

/-- The entries do not fail exactly if there is no fault, and then they are what is listed. -/
theorem entries_eq_ok_iff {search : Search} {sources : List Source} {found : List Meta} :
    entries search sources = .ok found ↔
      (∀ source ∈ sources, ∀ fault, ¬ source.Faults search fault) ∧
        found = sources.filterMap (Source.listed? search) := by
  constructor
  · intro h
    rcases firstFault_or_no_fault search sources with ⟨first, hfirst⟩ | hnone
    · rw [entries_of_firstFault hfirst] at h
      cases h
    · rw [entries_of_no_fault hnone, Except.ok.injEq] at h
      exact ⟨hnone, h.symm⟩
  · rintro ⟨hnone, rfl⟩
    exact entries_of_no_fault hnone

/-- The pattern for nothing stands for the expression that is empty. -/
theorem compile_empty : Pattern.compile "".toList = .ok .empty := by cbv

/-- A pattern that is none is the fault of the listing, whatever the sources are. -/
theorem index_of_bad_pattern {pattern reason : String}
    (h : Pattern.compile pattern.toList = .error reason) (sources : List Source) :
    index sources pattern = .error (.badPattern reason) := by
  simp only [index, Search.ofPattern, h]
  rfl

/-- A listing under a pattern has the entries of the search for it, the newest first. -/
theorem index_of_pattern {pattern : String} {regex : Regex}
    (h : Pattern.compile pattern.toList = .ok regex) (sources : List Source) :
    index sources pattern = (entries ⟨pattern, regex⟩ sources).map newestFirst := by
  simp only [index, Search.ofPattern, h]
  cases hentries : entries ⟨pattern, regex⟩ sources <;>
    simp [bind, Except.bind, Except.map, hentries, pure, Except.pure]

/-- A listing fails exactly with the first fault of its sources. -/
theorem index_eq_error_iff {pattern : String} {regex : Regex}
    (h : Pattern.compile pattern.toList = .ok regex) {sources : List Source} {fault : Fault} :
    index sources pattern = .error fault ↔ FirstFault ⟨pattern, regex⟩ sources fault := by
  rw [index_of_pattern h, ← entries_eq_error_iff]
  cases entries ⟨pattern, regex⟩ sources <;> simp [Except.map]

/-- A listing does not fail exactly if its sources have no fault, and then it has what they list. -/
theorem index_eq_ok_iff {pattern : String} {regex : Regex}
    (h : Pattern.compile pattern.toList = .ok regex) {sources : List Source} {posts : List Meta} :
    index sources pattern = .ok posts ↔
      (∀ source ∈ sources, ∀ fault, ¬ source.Faults ⟨pattern, regex⟩ fault) ∧
        IsListing (sources.filterMap (Source.listed? ⟨pattern, regex⟩)) posts := by
  rw [index_of_pattern h, isListing_iff]
  constructor
  · intro hposts
    cases hentries : entries ⟨pattern, regex⟩ sources with
    | error fault =>
      rw [hentries] at hposts
      cases hposts
    | ok found =>
      obtain ⟨hnone, rfl⟩ := entries_eq_ok_iff.mp hentries
      rw [hentries, Except.map, Except.ok.injEq] at hposts
      exact ⟨hnone, hposts.symm⟩
  · rintro ⟨hnone, rfl⟩
    rw [entries_of_no_fault hnone]
    rfl

/-- What a listing is. A pattern that is none makes it fail before the sources are looked at. Under
any other pattern it fails exactly if a source has a fault, and then with the fault of the first
such source; if none has, it has what the sources list, each as often as it is listed, the newest
first and those of one date in the order of the sources. -/
theorem index_spec (sources : List Source) (pattern : String) :
    match Pattern.compile pattern.toList with
    | .error reason => index sources pattern = .error (.badPattern reason)
    | .ok regex =>
      ((∃ fault, index sources pattern = .error fault) ↔
        ∃ source ∈ sources, ∃ fault, source.Faults ⟨pattern, regex⟩ fault) ∧
      (∀ fault, index sources pattern = .error fault ↔
        FirstFault ⟨pattern, regex⟩ sources fault) ∧
      ∀ posts, index sources pattern = .ok posts ↔
        (∀ source ∈ sources, ∀ fault, ¬ source.Faults ⟨pattern, regex⟩ fault) ∧
          IsListing (sources.filterMap (Source.listed? ⟨pattern, regex⟩)) posts := by
  cases hcompile : Pattern.compile pattern.toList with
  | error reason => exact index_of_bad_pattern hcompile sources
  | ok regex =>
    refine ⟨?_, fun _ => index_eq_error_iff hcompile, fun _ => index_eq_ok_iff hcompile⟩
    simp only [index_eq_error_iff hcompile]
    exact exists_firstFault_iff

end Folio.Blog
