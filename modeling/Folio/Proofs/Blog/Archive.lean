import Folio.Blog.Archive
import Folio.Proofs.Blog.Source
import Folio.Proofs.Text.Lines

/-!
# The sources of the site

Every file of the site lies in no folder and has front matter. So the sources that a listing takes
are all that can be found by a slug, and none of them spoils the listing.
-/

namespace Folio.Blog.Archive

open Folio.Text (endLines lines)

/-- A path ends like that of a source exactly if it is the path of the slug in front of the
ending. -/
theorem dropEnd?_path_iff {path : String} {slug : List Char} :
    Text.dropEnd? ".md".toList path.toList = some slug ↔ path = pathOf (String.ofList slug) := by
  rw [Text.dropEnd?_eq_some_iff, ← String.toList_inj]
  simp [pathOf]

/-- The slug of a path is the one whose path it is; a path in a folder has none. -/
theorem slugOf?_eq_some_iff {path slug : String} :
    slugOf? path = some slug ↔ path = pathOf slug ∧ '/' ∉ slug.toList := by
  rw [slugOf?]
  constructor
  · intro h
    cases hslug : Text.dropEnd? ".md".toList path.toList with
    | none =>
      rw [hslug] at h
      cases h
    | some chars =>
      rw [hslug] at h
      by_cases hfolder : '/' ∈ chars
      · simp [hfolder] at h
      · have hchars : String.ofList chars = slug := by simpa [hfolder] using h
        subst hchars
        exact ⟨dropEnd?_path_iff.mp hslug, by simpa using hfolder⟩
  · rintro ⟨hpath, hfolder⟩
    have hslug := dropEnd?_path_iff.mpr (hpath.trans (by rw [String.ofList_toList]))
    rw [hslug]
    simp [hfolder]

/-- The slugs are those of the files in no folder. -/
theorem mem_slugs_iff {slug : String} :
    slug ∈ slugs ↔ (∃ text, files.get? (pathOf slug) = some text) ∧ '/' ∉ slug.toList := by
  simp only [slugs, List.mem_filterMap, slugOf?_eq_some_iff]
  constructor
  · rintro ⟨⟨path, text⟩, hfile, rfl, hfolder⟩
    exact ⟨⟨text, (files.mem_entries_iff _ _).mp hfile⟩, hfolder⟩
  · rintro ⟨⟨text, hfile⟩, hfolder⟩
    exact ⟨(pathOf slug, text), (files.mem_entries_iff _ _).mpr hfile, rfl, hfolder⟩

/-- A slug without a file is not found. -/
theorem raw_of_no_file {slug : String} (hfile : files.get? (pathOf slug) = none) :
    raw slug = .error (.notFound slug) := by
  simp [raw, hfile]

/-- A slug that is not listed is not found: no file of the site lies in a folder. -/
theorem raw_of_not_mem_slugs {slug : String} (hslug : slug ∉ slugs) :
    raw slug = .error (.notFound slug) := by
  apply raw_of_no_file
  rw [Option.eq_none_iff_forall_ne_some]
  intro text hfile
  have hfolders : ∀ file ∈ files.entries, '/' ∉ file.1.toList := by
    intro file hfile
    rw [List.mem_singleton.mp hfile]
    decide +kernel
  have hpath := hfolders _ ((files.mem_entries_iff _ _).mpr hfile)
  refine hslug (mem_slugs_iff.mpr ⟨⟨text, hfile⟩, ?_⟩)
  intro hmem
  exact hpath (by simp [pathOf, hmem])

/-- A slug whose text can be read is listed with that text. -/
theorem source_of_raw {slug text : String} (hraw : raw slug = .ok text) :
    source slug = .readable slug text := by
  rw [source, hraw]

/-- Lines that are joined with a line feed behind each. -/
theorem toList_join_lines (parts : List String) :
    (String.join (parts.map (· ++ "\n"))).toList = endLines (parts.map String.toList) := by
  simp [String.toList_join, endLines, List.flatMap_map]

/-- The front matter of the overview of constrained decoding. -/
def constrainedDecodingFront : FrontMatter :=
  { title := "Constrained Decoding: A Quick Overview"
    description :=
      "How structured output from language models works, from JSON schema to a token mask."
    author := "Arnab"
    date := { second := 1736640000, nano := 0 }
    tags := ["llm", "parsing", "python"]
    draft := false }

/-- The overview of constrained decoding has that front matter. -/
theorem constrainedDecoding_front :
    ∃ body, FrontMatter.read?
      (String.join (constrainedDecodingLines.map (· ++ "\n"))).toList =
        some (constrainedDecodingFront, body) := by
  let fence := "---".toList
  let matter := ((constrainedDecodingLines.drop 1).take 8).map String.toList
  let rest := endLines ((constrainedDecodingLines.drop 10).map String.toList)
  -- Only the lines up to the second fence are looked at: what the body is does not matter here.
  have hsplit : constrainedDecodingLines =
      "---" :: ((constrainedDecodingLines.drop 1).take 8 ++
        "---" :: constrainedDecodingLines.drop 10) := rfl
  have hraw : (String.join (constrainedDecodingLines.map (· ++ "\n"))).toList =
      endLines (fence :: (matter ++ [fence])) ++ rest := by
    rw [toList_join_lines]
    refine (congrArg (fun parts => endLines (parts.map String.toList)) hsplit).trans ?_
    simp [endLines, fence, matter, rest]
  have hfence : Text.IsLine fence ∧ isFence fence = true := by decide +kernel
  have hmatter : ∀ line ∈ matter, Text.IsLine line ∧ isFence line = false := by decide +kernel
  have hline : ∀ line ∈ fence :: (matter ++ [fence]), Text.IsLine line := by
    intro line hline
    rcases List.mem_cons.mp hline with rfl | hline
    · exact hfence.1
    · rcases List.mem_append.mp hline with hline | hline
      · exact (hmatter line hline).1
      · exact List.mem_singleton.mp hline ▸ hfence.1
  have hlines : lines (endLines (fence :: (matter ++ [fence])) ++ rest) =
      fence :: (matter ++ fence :: lines rest) := by
    rw [Text.lines_endLines_append hline]
    simp
  have hfront : FrontMatter.ofLines? matter = some constrainedDecodingFront := by decide +kernel
  refine ⟨Text.joinLines (lines rest), ?_⟩
  rw [hraw, FrontMatter.read?_of_lines hlines hfence.2 (fun line h => (hmatter line h).2) hfence.2,
    hfront]
  rfl

/-- Every file of the site is a text with front matter. -/
theorem front_of_file {path : String} {text : Option String} (hfile : files.get? path = some text) :
    ∃ raw body, text = some raw ∧
      FrontMatter.read? raw.toList = some (constrainedDecodingFront, body) := by
  have hmem := (files.mem_entries_iff _ _).mpr hfile
  cases List.mem_singleton.mp hmem
  obtain ⟨body, hfront⟩ := constrainedDecoding_front
  exact ⟨_, body, rfl, hfront⟩

/-- Every slug that is listed has a source with front matter. -/
theorem front_of_mem_slugs {slug : String} (hslug : slug ∈ slugs) :
    ∃ text front body, raw slug = .ok text ∧
      FrontMatter.read? text.toList = some (front, body) := by
  obtain ⟨⟨text, hfile⟩, -⟩ := mem_slugs_iff.mp hslug
  obtain ⟨chars, body, rfl, hfront⟩ := front_of_file hfile
  exact ⟨chars, _, body, by simp [raw, hfile], hfront⟩

/-- Every text that is found by a slug has front matter. -/
theorem front_of_raw {slug text : String} (hraw : raw slug = .ok text) :
    ∃ body, FrontMatter.read? text.toList = some (constrainedDecodingFront, body) := by
  rw [raw] at hraw
  split at hraw
  next chars hfile =>
    obtain ⟨_, body, htext, hfront⟩ := front_of_file hfile
    cases hraw
    cases htext
    exact ⟨body, hfront⟩
  all_goals cases hraw

end Folio.Blog.Archive
