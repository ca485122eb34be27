import Folio.Proofs.Blog.Listing
import Folio.Proofs.Text.Lines

/-!
# The body has no say

The front matter of a source ends at the first fence behind the one that opens it. Two sources that
agree up to there have the same front matter or both have none, so looking them up gives the same
fault or posts that agree in all but their HTML, and one can take the place of the other in any
listing. What the bodies hold does not matter: further fences, YAML and draft flags are text.
-/

namespace Folio.Blog

open Folio.Text (EndedLine joinLines lines)

/-- What stands in front of a body: a fence, lines that are none, and a fence. -/
structure Header where
  opening : EndedLine
  matter : List EndedLine
  closing : EndedLine
  opens : isFence opening.text = true
  inside : ∀ line ∈ matter, isFence line.text = false
  closes : isFence closing.text = true

namespace Header

/-- The header as it is written. -/
def written (header : Header) : List Char :=
  (header.opening :: (header.matter ++ [header.closing])).flatMap EndedLine.written

/-- The source of a header and a body. -/
def source (header : Header) (body : String) : String := String.ofList header.written ++ body

/-- What the lines of a header say. -/
def front? (header : Header) : Option FrontMatter :=
  FrontMatter.ofLines? (header.matter.map EndedLine.cut)

/-- A line is cut out as a fence exactly if it is one. -/
theorem isFence_cut (line : EndedLine) : isFence line.cut = isFence line.text := by
  rw [isFence, isFence, line.trimEnd_cut]

/-- The lines of a source are those of its header and those of its body. -/
theorem lines_source (header : Header) (body : String) :
    lines (header.source body).toList =
      header.opening.cut ::
        (header.matter.map EndedLine.cut ++ header.closing.cut :: lines body.toList) := by
  rw [source, String.toList_append, String.toList_ofList, written,
    Text.lines_flatMap_written_append]
  simp

/-- The header decides what the front matter is, and the body is what stands behind it. -/
theorem read?_source (header : Header) (body : String) :
    FrontMatter.read? (header.source body).toList =
      header.front?.map fun front => (front, joinLines (lines body.toList)) := by
  refine FrontMatter.read?_of_lines (header.lines_source body) ?_ ?_ ?_
  · rw [isFence_cut, header.opens]
  · simp only [List.forall_mem_map, isFence_cut]
    exact header.inside
  · rw [isFence_cut, header.closes]

/-- A header that says nothing of a post has no front matter under any body. -/
theorem read?_source_of_none {header : Header} (h : header.front? = none) (body : String) :
    FrontMatter.read? (header.source body).toList = none := by
  rw [header.read?_source, h, Option.map_none]

/-- A header has the same front matter under every body. -/
theorem read?_source_of_some {header : Header} {front : FrontMatter}
    (h : header.front? = some front) (body : String) :
    FrontMatter.read? (header.source body).toList =
      some (front, joinLines (lines body.toList)) := by
  rw [header.read?_source, h, Option.map_some]

end Header

/-- Sources that list the same, and have the same faults, stand for each other in a listing. -/
theorem entries_replace {search : Search} {source other : Source}
    (h : source.entry? search = other.entry? search) (earlier later : List Source) :
    entries search (earlier ++ source :: later) = entries search (earlier ++ other :: later) := by
  induction earlier with
  | nil => rw [List.nil_append, List.nil_append, entries, entries, h]
  | cons first earlier ih => rw [List.cons_append, List.cons_append, entries, entries, ih]

/-- The search for nothing does the same to sources with the same front matter. -/
theorem entry?_congr {first second : String}
    (h : (FrontMatter.read? first.toList).map Prod.fst =
      (FrontMatter.read? second.toList).map Prod.fst) (slug : String) (regex : Pattern.Regex) :
    Source.entry? ⟨"", regex⟩ (.readable slug first) =
      Source.entry? ⟨"", regex⟩ (.readable slug second) := by
  have hrelevant (raw : String) : Search.Relevant ⟨"", regex⟩ raw := Or.inl rfl
  cases hfirst : FrontMatter.read? first.toList with
  | none =>
    rw [hfirst, Option.map_none] at h
    rw [Source.entry?_of_none (hrelevant _) hfirst,
      Source.entry?_of_none (hrelevant _) (Option.map_eq_none_iff.mp h.symm)]
  | some parts =>
    rw [hfirst, Option.map_some] at h
    obtain ⟨other, hsecond, hfront⟩ := Option.map_eq_some_iff.mp h.symm
    rw [Source.entry?_of_some (hrelevant _) hfirst, Source.entry?_of_some (hrelevant _) hsecond,
      hfront]

/-- Sources with the same front matter take each other's place in the full listing. -/
theorem index_congr {first second : String}
    (h : (FrontMatter.read? first.toList).map Prod.fst =
      (FrontMatter.read? second.toList).map Prod.fst) (slug : String)
    (earlier later : List Source) :
    index (earlier ++ .readable slug first :: later) "" =
      index (earlier ++ .readable slug second :: later) "" := by
  rw [index_of_pattern compile_empty, index_of_pattern compile_empty,
    entries_replace (entry?_congr h slug .empty)]

/-- The body never affects the metadata. Under one header all bodies have the same front matter,
or none has any; what is looked up is the same fault or a post with the same summary, and no
listing changes when one body takes the place of the other. -/
theorem body_never_matters (header : Header) (slug first second : String) :
    ((readSource slug (header.source first) = .error (.frontMatter slug) ∧
        readSource slug (header.source second) = .error (.frontMatter slug)) ∨
      ∃ front,
        readSource slug (header.source first) = .ok (front, joinLines (lines first.toList)) ∧
        readSource slug (header.source second) = .ok (front, joinLines (lines second.toList))) ∧
    ((∃ fault, Post.read slug (header.source first) = .error fault ∧
        Post.read slug (header.source second) = .error fault) ∨
      ∃ summary,
        Post.read slug (header.source first) =
          .ok ⟨summary, renderBody (joinLines (lines first.toList))⟩ ∧
        Post.read slug (header.source second) =
          .ok ⟨summary, renderBody (joinLines (lines second.toList))⟩) ∧
    ∀ earlier later : List Source,
      index (earlier ++ .readable slug (header.source first) :: later) "" =
        index (earlier ++ .readable slug (header.source second) :: later) "" := by
  have hlistings (earlier later : List Source) :
      index (earlier ++ .readable slug (header.source first) :: later) "" =
        index (earlier ++ .readable slug (header.source second) :: later) "" := by
    refine index_congr ?_ slug earlier later
    rw [header.read?_source, header.read?_source, Option.map_map, Option.map_map]
    rfl
  cases hfront : header.front? with
  | none =>
    have hread := Header.read?_source_of_none hfront
    exact ⟨Or.inl ⟨readSource_of_none (hread first), readSource_of_none (hread second)⟩,
      Or.inl ⟨_, Post.read_of_none (hread first), Post.read_of_none (hread second)⟩, hlistings⟩
  | some front =>
    have hread := Header.read?_source_of_some hfront
    refine ⟨Or.inr ⟨front, readSource_of_some (hread first), readSource_of_some (hread second)⟩,
      ?_, hlistings⟩
    cases hdraft : front.draft with
    | true =>
      exact Or.inl ⟨_, Post.read_of_draft (hread first) hdraft,
        Post.read_of_draft (hread second) hdraft⟩
    | false =>
      exact Or.inr ⟨_, Post.read_of_published (hread first) hdraft,
        Post.read_of_published (hread second) hdraft⟩

/-- The header of a post by its title. -/
def plainHeader : Header where
  opening := ⟨['-', '-', '-'], .feed, by decide⟩
  matter :=
    [⟨"title: T".toList, .feed, by decide⟩, ⟨"description: D".toList, .feed, by decide⟩,
      ⟨"author: A".toList, .feed, by decide⟩,
      ⟨"date: 2024-05-01T00:00:00Z".toList, .feed, by decide⟩]
  closing := ⟨['-', '-', '-'], .feed, by decide⟩
  opens := by decide
  inside := by decide
  closes := by decide

/-- What that header says. -/
def plainFront : FrontMatter :=
  { title := "T", description := "D", author := "A"
    date := { second := 1714521600, nano := 0 }
    tags := [], draft := false }

/-- The lines of the header say this. -/
theorem plainHeader_front : plainHeader.front? = some plainFront := by
  decide +kernel

/-- A body with a draft flag between fences, and below it what is no YAML and one more fence. -/
def fencedBody : String := "---\ndraft: true\n---\ntitle: [\n---\n"

/-- Under that header such a body is read with the summary that no body at all has, and takes its
place in every listing. -/
theorem body_never_matters_fenced :
    plainHeader.front? = some plainFront ∧
      (∃ summary,
        Post.read "plain" (plainHeader.source fencedBody) =
          .ok ⟨summary, renderBody (joinLines (lines fencedBody.toList))⟩ ∧
        Post.read "plain" (plainHeader.source "") =
          .ok ⟨summary, renderBody (joinLines (lines "".toList))⟩) ∧
      ∀ earlier later : List Source,
        index (earlier ++ .readable "plain" (plainHeader.source fencedBody) :: later) "" =
          index (earlier ++ .readable "plain" (plainHeader.source "") :: later) "" := by
  obtain ⟨-, hpost, hlistings⟩ := body_never_matters plainHeader "plain" fencedBody ""
  refine ⟨plainHeader_front, hpost.resolve_left ?_, hlistings⟩
  rintro ⟨fault, hfault, -⟩
  have hread := Header.read?_source_of_some plainHeader_front fencedBody
  rw [Post.read_of_published hread rfl] at hfault
  cases hfault

end Folio.Blog
