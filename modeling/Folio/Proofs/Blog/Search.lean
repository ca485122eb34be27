import Folio.Proofs.Blog.Listing

/-!
# What a search leaves of the listing

A search looks at fewer sources than the full listing and sorts what it finds in the same way. So it
has no fault that the full listing does not have, and what it lists is what is left of the full
listing without the entries whose texts do not match, in the same order. Two sources may list the
same entry for different texts, of which one matches; so the entries of the full listing are taken
together with the texts that they are listed for.
-/

namespace Folio.Blog

open Folio.Pattern (Regex)

/-- Nothing is in every text. -/
theorem matchesIn_empty (text : List Char) : Regex.empty.matchesIn text = true := by
  simp [Regex.matchesIn, Regex.ends, Pattern.Marks.some, Pattern.Marks.all]

/-- What is found by a search for a pattern is what the pattern matches. -/
theorem Search.finds_of_compile {pattern : String} {regex : Regex}
    (h : Pattern.compile pattern.toList = .ok regex) (raw : String) :
    Search.finds ⟨pattern, regex⟩ raw = regex.matchesIn raw.toList := by
  by_cases hempty : pattern = ""
  · subst hempty
    rw [compile_empty, Except.ok.injEq] at h
    simp [Search.finds, ← h, matchesIn_empty]
  · simp [Search.finds, hempty]

/-- What a source lists if it is looked at, and the text that it lists that for: front matter that
is no draft. -/
def Source.published? : Source → Option (Meta × String)
  | .broken _ => none
  | .readable slug raw =>
    match FrontMatter.read? raw.toList with
    | some (front, _) => if front.draft then none else some (front.summary slug, raw)
    | none => none

/-- A search lists what is published in a text that it finds. -/
theorem Source.listed?_eq (search : Search) (source : Source) :
    source.listed? search =
      (source.published?.filter fun entry => search.finds entry.2).map Prod.fst := by
  cases source with
  | broken fault => rfl
  | readable slug raw =>
    rw [listed?, published?]
    cases FrontMatter.read? raw.toList with
    | none => rfl
    | some parts =>
      cases hdraft : parts.1.draft <;> simp [Option.filter_some, apply_ite, hdraft]

/-- What sources list in a search is what they publish in the texts that it finds. -/
theorem filterMap_listed? (search : Search) (sources : List Source) :
    sources.filterMap (Source.listed? search) =
      ((sources.filterMap Source.published?).filter fun entry => search.finds entry.2).map
        Prod.fst := by
  rw [List.filter_filterMap, List.map_filterMap]
  exact List.filterMap_congr fun source _ => source.listed?_eq search

/-- The search for nothing lists all that sources publish. -/
theorem filterMap_listed?_empty (sources : List Source) :
    sources.filterMap (Source.listed? ⟨"", .empty⟩) =
      (sources.filterMap Source.published?).map Prod.fst := by
  rw [filterMap_listed?, List.filter_eq_self.mpr]
  intro entry _
  rfl

/-- The entries of a listing, each with the text that it is listed for. -/
structure IsTextListing (entries texts : List (Meta × String)) (posts : List Meta) : Prop where
  map_fst : texts.map Prod.fst = posts
  perm : texts.Perm entries
  stable : ∀ date, texts.filter (·.1.date = date) = entries.filter (·.1.date = date)

/-- The entries of a listing have texts. -/
theorem exists_isTextListing (entries : List (Meta × String)) :
    ∃ texts, IsTextListing entries texts (newestFirst (entries.map Prod.fst)) := by
  refine ⟨entries.mergeSort fun a b => b.1.date.le a.1.date, ?_, List.mergeSort_perm _ _,
    mergeSort_filter_date (·.1.date) entries⟩
  exact List.map_mergeSort fun _ _ _ _ => rfl

/-- What is left of a listing without some texts is the listing of what is left. -/
theorem IsTextListing.filter {entries texts : List (Meta × String)} {posts : List Meta}
    (h : IsTextListing entries texts posts)
    (hnewest : posts.Pairwise fun a b => b.date.le a.date = true) (keep : String → Bool) :
    IsListing ((entries.filter fun entry => keep entry.2).map Prod.fst)
      ((texts.filter fun entry => keep entry.2).map Prod.fst) := by
  refine ⟨(h.perm.filter _).map _, ?_, fun date => ?_⟩
  · refine hnewest.sublist ?_
    rw [← h.map_fst]
    exact List.filter_sublist.map _
  · have hdate (list : List (Meta × String)) :
        ((list.filter fun entry => keep entry.2).map Prod.fst).filter (·.date = date) =
          ((list.filter (·.1.date = date)).filter fun entry => keep entry.2).map Prod.fst := by
      rw [List.filter_map, List.filter_comm]
      rfl
    rw [hdate, hdate, h.stable]

/-- Where the full listing has no fault, no search has one. -/
theorem not_faults_of_index {sources : List Source} {posts : List Meta}
    (h : index sources "" = .ok posts) (search : Search) :
    ∀ source ∈ sources, ∀ fault, ¬ source.Faults search fault := by
  intro source hsource fault hfault
  refine ((index_eq_ok_iff compile_empty).mp h).1 source hsource fault ?_
  cases hfault with
  | broken => exact .broken fault
  | malformed slug raw hrelevant hfront => exact .malformed slug raw (Or.inl rfl) hfront

/-- If the full listing has no fault, a search fails only if its pattern is none, and else leaves of
the full listing, in its order, the entries whose texts the pattern matches. Which text an entry is
listed for does not depend on the pattern. -/
theorem search_narrows {sources : List Source} {all : List Meta}
    (hall : index sources "" = .ok all) :
    ∃ texts, IsTextListing (sources.filterMap Source.published?) texts all ∧
      ∀ pattern : String,
        match Pattern.compile pattern.toList with
        | .error reason => index sources pattern = .error (.badPattern reason)
        | .ok regex =>
          index sources pattern =
            .ok ((texts.filter fun entry => regex.matchesIn entry.2.toList).map Prod.fst) ∧
          ((texts.filter fun entry => regex.matchesIn entry.2.toList).map Prod.fst).Sublist all ∧
          ((∀ entry ∈ texts, regex.matchesIn entry.2.toList = true) →
            index sources pattern = .ok all) := by
  obtain ⟨-, hlisting⟩ := (index_eq_ok_iff compile_empty).mp hall
  rw [filterMap_listed?_empty] at hlisting
  obtain ⟨texts, htexts⟩ := exists_isTextListing (sources.filterMap Source.published?)
  rw [← hlisting.eq_newestFirst] at htexts
  refine ⟨texts, htexts, fun pattern => ?_⟩
  cases hcompile : Pattern.compile pattern.toList with
  | error reason => exact index_of_bad_pattern hcompile sources
  | ok regex =>
    have hfound : index sources pattern =
        .ok ((texts.filter fun entry => regex.matchesIn entry.2.toList).map Prod.fst) := by
      refine (index_eq_ok_iff hcompile).mpr ⟨not_faults_of_index hall _, ?_⟩
      rw [filterMap_listed?]
      simp only [Search.finds_of_compile hcompile]
      exact htexts.filter hlisting.newest fun raw => regex.matchesIn raw.toList
    refine ⟨hfound, ?_, fun hmatch => ?_⟩
    · rw [← htexts.map_fst]
      exact List.filter_sublist.map _
    · rw [hfound, List.filter_eq_self.mpr hmatch, htexts.map_fst]

/-- A source of one day about something. -/
def aboutRaw (topic : String) : String :=
  "---\ntitle: T\ndescription: D\nauthor: A\ndate: 2024-03-02T00:00:00Z\n---\n" ++ topic

/-- The front matter of such a source. -/
def aboutFront : FrontMatter :=
  { title := "T", description := "D", author := "A"
    date := { second := 1709337600, nano := 0 }
    tags := [], draft := false }

/-- Two sources of one day with the same slug, so that their entries differ in their texts only. -/
theorem search_narrows_twins :
    index [.readable "twin" (aboutRaw "Lean"), .readable "twin" (aboutRaw "Rust")] "" =
      .ok [aboutFront.summary "twin", aboutFront.summary "twin"] ∧
    ∃ texts, IsTextListing
        ([Source.readable "twin" (aboutRaw "Lean"), .readable "twin" (aboutRaw "Rust")].filterMap
          Source.published?)
        texts [aboutFront.summary "twin", aboutFront.summary "twin"] ∧
      ∀ pattern : String,
        match Pattern.compile pattern.toList with
        | .error reason =>
          index [.readable "twin" (aboutRaw "Lean"), .readable "twin" (aboutRaw "Rust")] pattern =
            .error (.badPattern reason)
        | .ok regex =>
          index [.readable "twin" (aboutRaw "Lean"), .readable "twin" (aboutRaw "Rust")] pattern =
            .ok ((texts.filter fun entry => regex.matchesIn entry.2.toList).map Prod.fst) ∧
          ((texts.filter fun entry => regex.matchesIn entry.2.toList).map Prod.fst).Sublist
            [aboutFront.summary "twin", aboutFront.summary "twin"] ∧
          ((∀ entry ∈ texts, regex.matchesIn entry.2.toList = true) →
            index [.readable "twin" (aboutRaw "Lean"), .readable "twin" (aboutRaw "Rust")] pattern =
              .ok [aboutFront.summary "twin", aboutFront.summary "twin"]) := by
  have hlean : FrontMatter.read? (aboutRaw "Lean").toList = some (aboutFront, "Lean".toList) := by
    decide +kernel
  have hrust : FrontMatter.read? (aboutRaw "Rust").toList = some (aboutFront, "Rust".toList) := by
    decide +kernel
  have hall : index [.readable "twin" (aboutRaw "Lean"), .readable "twin" (aboutRaw "Rust")] "" =
      .ok [aboutFront.summary "twin", aboutFront.summary "twin"] := by
    refine (index_eq_ok_iff compile_empty).mpr ⟨?_, ?_⟩
    · simp only [List.forall_mem_cons, List.not_mem_nil, false_imp_iff, implies_true, and_true]
      exact ⟨Source.not_faults_of_some _ hlean, Source.not_faults_of_some _ hrust⟩
    · have hpublished : [Source.readable "twin" (aboutRaw "Lean"),
            .readable "twin" (aboutRaw "Rust")].filterMap Source.published? =
          [(aboutFront.summary "twin", aboutRaw "Lean"),
            (aboutFront.summary "twin", aboutRaw "Rust")] := by
        simp [Source.published?, hlean, hrust, aboutFront]
      rw [filterMap_listed?_empty, hpublished]
      exact ⟨.refl _, by simp, fun _ => rfl⟩
  exact ⟨hall, search_narrows hall⟩

end Folio.Blog
