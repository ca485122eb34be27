import Folio.Blog.Post
import Folio.Proofs.Text.Lines

/-!
# Reading a source

The front matter is what the lines between the fences say, and the lines behind them have no part in
it. A source without front matter is malformed, a draft is treated as missing, and every other
source is a post. Nothing but the front matter decides which of the three it is. What is read of a
source is read of its lines, so how they end does not matter.
-/

namespace Folio.Blog

open Folio.Text (joinLines lines lines_withReturns trim withReturns)
open Folio.Yaml (Value)

/-- What lines between fences say. -/
def FrontMatter.ofLines? (matter : List (List Char)) : Option FrontMatter :=
  if (trim (joinLines matter)).isEmpty then none
  else (Value.ofText? (trim (joinLines matter))).bind FrontMatter.ofValue?

/-- A source is cut at its first line and at the next fence. -/
theorem splitSource?_of_lines {raw opening closing : List Char} {matter body : List (List Char)}
    (hlines : lines raw = opening :: (matter ++ closing :: body))
    (hopening : isFence opening = true) (hmatter : ∀ line ∈ matter, isFence line = false)
    (hclosing : isFence closing = true) :
    splitSource? raw =
      if (trim (joinLines matter)).isEmpty then none
      else some (trim (joinLines matter), joinLines body) := by
  have hinside : ∀ line ∈ matter, (!isFence line) = true := by
    intro line hline
    rw [hmatter line hline, Bool.not_false]
  have htake : (matter ++ closing :: body).takeWhile (fun line => !isFence line) = matter := by
    rw [List.takeWhile_append_of_pos hinside]
    simp [hclosing]
  have hdrop : (matter ++ closing :: body).dropWhile (fun line => !isFence line) =
      closing :: body := by
    rw [List.dropWhile_append_of_pos hinside]
    simp [hclosing]
  simp only [splitSource?, hlines, hopening, if_true, hdrop, htake]

/-- The front matter is what the lines between the fences say. -/
theorem FrontMatter.read?_of_lines {raw opening closing : List Char}
    {matter body : List (List Char)} (hlines : lines raw = opening :: (matter ++ closing :: body))
    (hopening : isFence opening = true) (hmatter : ∀ line ∈ matter, isFence line = false)
    (hclosing : isFence closing = true) :
    FrontMatter.read? raw =
      (FrontMatter.ofLines? matter).map fun front => (front, joinLines body) := by
  rw [FrontMatter.read?, splitSource?_of_lines hlines hopening hmatter hclosing,
    FrontMatter.ofLines?]
  split
  · rfl
  · cases hvalue : Value.ofText? (trim (joinLines matter)) with
    | none => simp [hvalue]
    | some value => cases hfront : FrontMatter.ofValue? value <;> simp [hvalue, hfront]

/-- What the tags say; there may be none. -/
def FrontMatter.tags? : Option Value → Option (List String)
  | some value => texts? value
  | none => some []

/-- What the flag of a draft says; there may be none. -/
def FrontMatter.draft? : Option Value → Option Bool
  | some value => flag? value
  | none => some false

/-- Front matter is made of what its six fields say. -/
theorem FrontMatter.ofFields?_eq (field? : String → Option Value) :
    ofFields? field? =
      ((field? "title").bind text?).bind fun title =>
      ((field? "description").bind text?).bind fun description =>
      ((field? "author").bind text?).bind fun author =>
      ((field? "date").bind instant?).bind fun date =>
      (tags? (field? "tags")).bind fun tags =>
      (draft? (field? "draft")).bind fun draft =>
        some { title, description, author, date, tags, draft } := by
  simp only [ofFields?, Option.bind_eq_bind, Option.bind_assoc]
  cases field? "tags" <;> cases field? "draft" <;> rfl

variable {slug raw : String} {front : FrontMatter} {body : List Char}

/-- What is read of a source with front matter. -/
theorem readSource_of_some (hfront : FrontMatter.read? raw.toList = some (front, body)) :
    readSource slug raw = .ok (front, body) := by
  simp [readSource, hfront]

/-- A source without front matter is malformed. -/
theorem readSource_of_none (hfront : FrontMatter.read? raw.toList = none) :
    readSource slug raw = .error (.frontMatter slug) := by
  simp [readSource, hfront]

/-- There is no post without front matter. -/
theorem Post.read_of_none (hfront : FrontMatter.read? raw.toList = none) :
    Post.read slug raw = .error (.frontMatter slug) := by
  rw [Post.read, readSource_of_none hfront]
  rfl

/-- A draft is not found. -/
theorem Post.read_of_draft (hfront : FrontMatter.read? raw.toList = some (front, body))
    (hdraft : front.draft = true) : Post.read slug raw = .error (.notFound slug) := by
  rw [Post.read, readSource_of_some hfront]
  simp [bind, Except.bind, hdraft, throw, throwThe, MonadExceptOf.throw]

/-- A source with front matter that is no draft is a post. -/
theorem Post.read_of_published (hfront : FrontMatter.read? raw.toList = some (front, body))
    (hdraft : front.draft = false) :
    Post.read slug raw = .ok ⟨front.summary slug, renderBody body⟩ := by
  rw [Post.read, readSource_of_some hfront]
  simp [bind, Except.bind, hdraft, pure, Except.pure]

/-- A source whose front matter is read is a post or, with the flag of a draft, is not found. -/
theorem Post.read_of_some (hfront : FrontMatter.read? raw.toList = some (front, body)) :
    Post.read slug raw =
      if front.draft then .error (.notFound slug)
      else .ok ⟨front.summary slug, renderBody body⟩ := by
  split
  case isTrue hdraft => exact Post.read_of_draft hfront hdraft
  case isFalse hdraft => exact Post.read_of_published hfront (by simpa using hdraft)

/-- What can be said of a source that is looked up: it is malformed, a draft or a post. -/
theorem Post.read_cases (slug raw : String) :
    (FrontMatter.read? raw.toList = none ∧ Post.read slug raw = .error (.frontMatter slug)) ∨
    (∃ front body, FrontMatter.read? raw.toList = some (front, body) ∧ front.draft = true ∧
      Post.read slug raw = .error (.notFound slug)) ∨
    ∃ front body, FrontMatter.read? raw.toList = some (front, body) ∧ front.draft = false ∧
      Post.read slug raw = .ok ⟨front.summary slug, renderBody body⟩ := by
  cases hfront : FrontMatter.read? raw.toList with
  | none => exact Or.inl ⟨rfl, Post.read_of_none hfront⟩
  | some parts =>
    obtain ⟨front, body⟩ := parts
    cases hdraft : front.draft with
    | true => exact Or.inr (Or.inl ⟨front, body, rfl, hdraft, Post.read_of_draft hfront hdraft⟩)
    | false =>
      exact Or.inr (Or.inr ⟨front, body, rfl, hdraft, Post.read_of_published hfront hdraft⟩)

/-- The posts are the sources with front matter that are no drafts. -/
theorem Post.read_eq_ok_iff {post : Post} :
    Post.read slug raw = .ok post ↔
      ∃ front body, FrontMatter.read? raw.toList = some (front, body) ∧ front.draft = false ∧
        post = ⟨front.summary slug, renderBody body⟩ := by
  constructor
  · intro hread
    rcases Post.read_cases slug raw with ⟨-, h⟩ | ⟨-, -, -, -, h⟩ | ⟨front, body, hfront, hdraft, h⟩
    · rw [h] at hread
      cases hread
    · rw [h] at hread
      cases hread
    · rw [h, Except.ok.injEq] at hread
      exact ⟨front, body, hfront, hdraft, hread.symm⟩
  · rintro ⟨front, body, hfront, hdraft, rfl⟩
    exact Post.read_of_published hfront hdraft

/-- A post has the slug under which it was read. -/
theorem Post.slug_of_read {post : Post} (h : Post.read slug raw = .ok post) :
    post.summary.slug = slug := by
  obtain ⟨front, body, -, -, rfl⟩ := Post.read_eq_ok_iff.mp h
  rfl

/-- What is read of a source is read of its lines. -/
theorem Post.read_congr {raw other : String} (h : lines raw.toList = lines other.toList)
    (slug : String) : Post.read slug raw = Post.read slug other := by
  have hfront : FrontMatter.read? raw.toList = FrontMatter.read? other.toList := by
    rw [FrontMatter.read?, FrontMatter.read?, splitSource?, splitSource?, h]
  rw [Post.read, Post.read, readSource, readSource, hfront]

/-- Line ends do not matter. Where every line feed of a source gets a carriage return in front, the
post or the fault that is read is the same. -/
theorem line_ends_do_not_matter (slug : String) {raw : String} (h : '\r' ∉ raw.toList) :
    Post.read slug (String.ofList (withReturns raw.toList)) = Post.read slug raw := by
  refine Post.read_congr ?_ slug
  rw [String.toList_ofList, lines_withReturns h]

/-- A source with a quoted text over two lines, a block of code, and no line feed at its end. -/
def brokenRaw : String :=
  "---\ntitle: \"T\n  U\"\ndescription: D\nauthor: A\ndate: 2024-03-01T00:00:00Z\n---\n" ++
    "\n```rust\nlet x;\n\n```"

/-- They do not matter to that source. -/
theorem line_ends_do_not_matter_broken :
    '\r' ∉ brokenRaw.toList ∧
    Post.read "broken" (String.ofList (withReturns brokenRaw.toList)) =
      Post.read "broken" brokenRaw :=
  ⟨by decide, line_ends_do_not_matter "broken" (by decide)⟩

end Folio.Blog
