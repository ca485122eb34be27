import Folio.Proofs.Blog.Archive
import Folio.Proofs.Blog.Listing
import Mathlib.Logic.Relation

/-!
# Drafts

A draft leaves no trace. It is no entry and no fault of a search, whether the search finds it or
not, so a listing is the same with and without it; and who asks for it by its slug is told what they
would be told if there were no such file.
-/

namespace Folio.Blog

open Relation (ReflTransGen)

/-- A source is put into a list, at any place. -/
inductive Inserted (source : Source) : List Source → List Source → Prop where
  | mk (earlier later : List Source) :
      Inserted source (earlier ++ later) (earlier ++ source :: later)

variable {slug raw : String} {front : FrontMatter} {body : List Char}

/-- A draft is listed in no search. -/
theorem listed?_of_draft (search : Search)
    (hfront : FrontMatter.read? raw.toList = some (front, body)) (hdraft : front.draft = true) :
    (Source.readable slug raw).listed? search = none := by
  simp [Source.listed?, hfront, hdraft]

/-- A source that has no fault and lists nothing can be put anywhere without a change. -/
theorem entries_insert {search : Search} {source : Source}
    (hfault : ∀ fault, ¬ source.Faults search fault) (hlisted : source.listed? search = none)
    (earlier later : List Source) :
    entries search (earlier ++ source :: later) = entries search (earlier ++ later) := by
  induction earlier with
  | nil =>
    rw [List.nil_append, List.nil_append, entries_cons_of_no_fault hfault, hlisted]
    cases entries search later <;> rfl
  | cons other earlier ih =>
    rw [List.cons_append, List.cons_append, entries, entries, ih]

/-- A draft put into the sources does not change the listing under any pattern. -/
theorem index_insert_draft (hfront : FrontMatter.read? raw.toList = some (front, body))
    (hdraft : front.draft = true) (pattern : String) (earlier later : List Source) :
    index (earlier ++ .readable slug raw :: later) pattern = index (earlier ++ later) pattern := by
  cases hcompile : Pattern.compile pattern.toList with
  | error reason => rw [index_of_bad_pattern hcompile, index_of_bad_pattern hcompile]
  | ok regex =>
    rw [index_of_pattern hcompile, index_of_pattern hcompile,
      entries_insert (Source.not_faults_of_some _ hfront) (listed?_of_draft _ hfront hdraft)]

/-- Drafts are invisible. However often and wherever a draft is put into the sources, the listing
under any pattern is the same, and the draft itself is not found, just as a slug without a file. -/
theorem draft_invisible (hfront : FrontMatter.read? raw.toList = some (front, body))
    (hdraft : front.draft = true) :
    (∀ (pattern : String) (sources padded : List Source),
      ReflTransGen (Inserted (.readable slug raw)) sources padded →
        index padded pattern = index sources pattern) ∧
    Post.read slug raw = .error (.notFound slug) ∧
    (Archive.files.get? (Archive.pathOf slug) = none →
      Archive.raw slug = .error (.notFound slug)) := by
  refine ⟨?_, Post.read_of_draft hfront hdraft, Archive.raw_of_no_file⟩
  intro pattern sources padded hpadded
  induction hpadded with
  | refl => rfl
  | tail _ hinserted ih =>
    obtain ⟨earlier, later⟩ := hinserted
    rw [index_insert_draft hfront hdraft, ih]

/-- A source whose front matter says that it is a draft. -/
def hiddenRaw : String :=
  "---\ntitle: T\ndescription: D\nauthor: A\ndate: 2024-03-01T00:00:00Z\ndraft: true\n---\nText"

/-- The front matter of that source. -/
def hiddenFront : FrontMatter :=
  { title := "T", description := "D", author := "A"
    date := { second := 1709251200, nano := 0 }
    tags := [], draft := true }

/-- That source is invisible. -/
theorem draft_invisible_hidden :
    FrontMatter.read? hiddenRaw.toList = some (hiddenFront, "Text".toList) ∧
    hiddenFront.draft = true ∧
    ((∀ (pattern : String) (sources padded : List Source),
      ReflTransGen (Inserted (.readable "hidden" hiddenRaw)) sources padded →
        index padded pattern = index sources pattern) ∧
    Post.read "hidden" hiddenRaw = .error (.notFound "hidden") ∧
    (Archive.files.get? (Archive.pathOf "hidden") = none →
      Archive.raw "hidden" = .error (.notFound "hidden"))) := by
  have hfront : FrontMatter.read? hiddenRaw.toList = some (hiddenFront, "Text".toList) := by
    decide +kernel
  exact ⟨hfront, rfl, draft_invisible hfront rfl⟩

end Folio.Blog
