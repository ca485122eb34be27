import Folio.Proofs.Blog.Arrival
import Folio.Proofs.Blog.Body

/-!
# Dates are instants

What one instant is called at different places makes no difference: a post is the same whichever of
these dates its front matter has, so its place in a listing is the same, and so is all that is
written of it. Posts are listed by their instants, the latest first, whatever offsets their dates
have. Instants are kept to the nanosecond, and digits behind the ninth of a fraction do not count.
-/

namespace Folio.Blog

open Folio.Calendar (ClockTime Instant Spelling)
open Folio.Text (joinLines lines)
open Folio.Yaml (Value)

/-- The same front matter with the date that a place shows at a time of UTC. -/
def Authored.dated (authored : Authored) (time : ClockTime) (spelling : Spelling) : Authored :=
  { authored with date := time.inZone spelling.zone, spelling }

/-- Front matter with another date is sound. -/
theorem Authored.IsSound.dated {authored : Authored} (h : authored.IsSound) {time : ClockTime}
    (htime : time.IsShownEverywhere) {spelling : Spelling} (hspelling : spelling.IsValid) :
    (authored.dated time spelling).IsSound :=
  { h with
    date := htime.isValid_inZone spelling.zone
    spelling := hspelling }

/-- What an author writes, with the order of the fields, the margin of the tags and the body. -/
structure Article where
  authored : Authored
  order : List Field
  margin : Nat
  body : String

namespace Article

/-- An article whose texts stand for themselves in quotes and that has each field once. -/
structure IsSound (article : Article) : Prop where
  authored : article.authored.IsSound
  order : article.order.Perm Field.all

/-- The source of an article that is dated by what a place shows at a time of UTC. -/
def dated (article : Article) (time : ClockTime) (spelling : Spelling) : String :=
  (article.authored.dated time spelling).source article.order article.margin article.body

/-- The front matter that was meant. -/
def front (article : Article) (instant : Instant) : FrontMatter := article.authored.front instant

/-- The lines of the body. -/
def content (article : Article) : List Char := joinLines (lines article.body.toList)

/-- An article with any date of a time is read with the instant of that time. -/
theorem read?_dated {article : Article} (hsound : article.IsSound) {time : ClockTime}
    (htime : time.IsShownEverywhere) {instant : Instant} (hshows : instant.Shows time)
    {spelling : Spelling} (hspelling : spelling.IsValid) :
    FrontMatter.read? (article.dated time spelling).toList =
      some (article.front instant, article.content) := by
  have hinstant : (time.inZone spelling.zone).instant? spelling.zone = some instant := by
    rw [ClockTime.instant?_inZone htime.valid hspelling.zone, ClockTime.instant?_of_shows hshows]
  rw [dated, Authored.read?_source (hsound.authored.dated htime hspelling) hsound.order]
  exact congrArg (Option.map _) hinstant

end Article

/-- What a source says as a value, and the body behind it. -/
def content? (raw : String) : Option (Value × List Char) :=
  (splitSource? raw.toList).bind fun (matter, body) =>
    (Value.ofText? matter).map fun value => (value, body)

/-- The front matter is what the value says. -/
theorem read?_of_content? {raw : String} {value : Value} {body : List Char}
    (h : content? raw = some (value, body)) :
    FrontMatter.read? raw.toList =
      (FrontMatter.ofValue? value).map fun front => (front, body) := by
  obtain ⟨⟨matter, rest⟩, hsplit, hvalue⟩ := Option.bind_eq_some_iff.mp h
  obtain ⟨said, htext, hsaid⟩ := Option.map_eq_some_iff.mp hvalue
  cases hsaid
  rw [FrontMatter.read?, hsplit]
  cases hfront : FrontMatter.ofValue? value <;> simp [htext, hfront]

/-- Front matter around its date: the other entries of a map, or the other items of a list. -/
inductive DateFrame where
  | entries (before after : List (Value × Value))
  | items (title description author : Value) (rest : List Value)

/-- Front matter with its date. -/
def DateFrame.value : DateFrame → List Char → Value
  | .entries before after, text => .map (before ++ (.text "date".toList, .text text) :: after)
  | .items title description author rest, text =>
    .list (title :: description :: author :: .text text :: rest)

/-- A field is looked up among the first entries and then among the others. -/
theorem field?_append (before after : List (Value × Value)) (key : String) :
    FrontMatter.field? (before ++ after) key =
      (FrontMatter.field? before key).or (FrontMatter.field? after key) := by
  rw [FrontMatter.field?, List.find?_append, Option.map_or]
  rfl

/-- An entry is what is looked up under its key, and nothing under any other. -/
theorem field?_cons (text : List Char) (value : Value) (rest : List (Value × Value))
    (key : String) :
    FrontMatter.field? ((.text text, value) :: rest) key =
      if text = key.toList then some value else FrontMatter.field? rest key := by
  rw [FrontMatter.field?, List.find?_cons]
  by_cases hkey : text = key.toList
  · simp [hkey]
  · simp [hkey, FrontMatter.field?]

/-- Among the entries of a map, texts of one instant stand for each other. -/
theorem ofValue?_entries_congr (before after : List (Value × Value)) {first second : List Char}
    (h : Instant.read? first = Instant.read? second) :
    FrontMatter.ofValue? ((DateFrame.entries before after).value first) =
      FrontMatter.ofValue? ((DateFrame.entries before after).value second) := by
  have hother (key : String) (hkey : "date".toList ≠ key.toList) (text : List Char) :
      FrontMatter.field? (before ++ (.text "date".toList, .text text) :: after) key =
        FrontMatter.field? (before ++ after) key := by
    rw [field?_append, field?_append, field?_cons, if_neg hkey]
  have hdate (text : List Char) :
      (FrontMatter.field? (before ++ (.text "date".toList, .text text) :: after) "date").bind
          FrontMatter.instant? =
        ((FrontMatter.field? before "date").or (some (.text text))).bind FrontMatter.instant? := by
    rw [field?_append, field?_cons, if_pos rfl]
  -- An entry in front of the date takes its place, and else its instant counts.
  have hsame : ((FrontMatter.field? before "date").or (some (.text first))).bind
        FrontMatter.instant? =
      ((FrontMatter.field? before "date").or (some (.text second))).bind FrontMatter.instant? := by
    cases FrontMatter.field? before "date" with
    | none => exact h
    | some value => rfl
  simp only [DateFrame.value, FrontMatter.ofValue?, FrontMatter.ofFields?_eq, hdate, hsame,
    hother "title" (by decide), hother "description" (by decide), hother "author" (by decide),
    hother "tags" (by decide), hother "draft" (by decide)]

/-- Texts of one instant stand for each other wherever the date stands. -/
theorem ofValue?_congr (frame : DateFrame) {first second : List Char}
    (h : Instant.read? first = Instant.read? second) :
    FrontMatter.ofValue? (frame.value first) = FrontMatter.ofValue? (frame.value second) := by
  cases frame with
  | entries before after => exact ofValue?_entries_congr before after h
  | items title description author rest =>
    simp [DateFrame.value, FrontMatter.ofValue?, FrontMatter.ofFields?_eq, FrontMatter.order,
      FrontMatter.instant?, List.lookup_cons, h]

/-- Two texts of a source that make no difference: they have the same front matter and body, they
are the same post, and each takes the place of the other in the full listing. -/
structure Interchangeable (slug first second : String) : Prop where
  source : readSource slug first = readSource slug second
  post : Post.read slug first = Post.read slug second
  listing : ∀ earlier later : List Source,
    index (earlier ++ .readable slug first :: later) "" =
      index (earlier ++ .readable slug second :: later) ""

/-- Nothing but the front matter and the body makes a difference. -/
theorem interchangeable_of_read? {first second : String}
    (h : FrontMatter.read? first.toList = FrontMatter.read? second.toList) (slug : String) :
    Interchangeable slug first second := by
  have hsource : readSource slug first = readSource slug second := by
    rw [readSource, readSource, h]
  exact ⟨hsource, by rw [Post.read, Post.read, hsource], index_congr (by rw [h]) slug⟩

/-- Sources that differ in two texts of one instant make no difference. -/
theorem interchangeable_of_content? {first second : String} {frame : DateFrame}
    {text other body : List Char} (h : Instant.read? text = Instant.read? other)
    (hfirst : content? first = some (frame.value text, body))
    (hsecond : content? second = some (frame.value other, body)) (slug : String) :
    Interchangeable slug first second := by
  apply interchangeable_of_read?
  rw [read?_of_content? hfirst, read?_of_content? hsecond, ofValue?_congr frame h]

/-- Whatever is listed, no post stands in front of a later one. -/
theorem pairwise_of_index {sources : List Source} {pattern : String} {posts : List Meta}
    (h : index sources pattern = .ok posts) :
    posts.Pairwise fun a b => b.date.le a.date = true := by
  rw [index] at h
  cases hsearch : Search.ofPattern pattern with
  | error fault => simp [hsearch, bind, Except.bind] at h
  | ok search =>
    cases hentries : entries search sources with
    | error fault => simp [hsearch, hentries, bind, Except.bind] at h
    | ok found =>
      have hposts : newestFirst found = posts := by
        simpa [hsearch, hentries, bind, Except.bind, pure, Except.pure] using h
      exact hposts ▸ newestFirst_pairwise found

/-- Of two posts the later one is listed first. -/
theorem isListing_pair {a b : Meta} (h : b.date.le a.date = false) :
    IsListing [a, b] [b, a] ∧ IsListing [b, a] [b, a] := by
  have hdates : a.date ≠ b.date := by
    intro heq
    rw [heq, Instant.le_refl] at h
    cases h
  have hle : a.date.le b.date = true :=
    (Instant.le_total a.date b.date).resolve_right (by simp [h])
  have hnewest : [b, a].Pairwise fun a b => b.date.le a.date = true := by simp [hle]
  refine ⟨⟨.swap a b [], hnewest, fun date => ?_⟩, ⟨.refl _, hnewest, fun _ => rfl⟩⟩
  by_cases ha : a.date = date
  · simp [ha, ha ▸ hdates.symm]
  · simp [List.filter_cons, ha]

/-- Two sources that are no drafts are listed as their entries are. -/
theorem index_pair {slug raw other second : String} {front next : FrontMatter}
    {body rest : List Char} (hread : FrontMatter.read? raw.toList = some (front, body))
    (hsecond : FrontMatter.read? second.toList = some (next, rest)) (hdraft : front.draft = false)
    (hnext : next.draft = false) {posts : List Meta}
    (h : IsListing [front.summary slug, next.summary other] posts) :
    index [.readable slug raw, .readable other second] "" = .ok posts := by
  refine (index_eq_ok_iff compile_empty).mpr ⟨?_, ?_⟩
  · simp only [List.forall_mem_cons, List.not_mem_nil, false_imp_iff, implies_true, and_true]
    exact ⟨Source.not_faults_of_some _ hread, Source.not_faults_of_some _ hsecond⟩
  · simpa [Source.listed?, hread, hsecond, hdraft, hnext, Search.finds] using h

/-- The dates of a time of UTC are one instant. -/
structure DatesAre (time : ClockTime) (instant : Instant) : Prop where
  /-- It is the instant at which UTC shows the time. -/
  shows : instant.Shows time
  /-- Whatever place a date is written for, an article is read with that instant. -/
  read : ∀ article : Article, article.IsSound → ∀ spelling : Spelling, spelling.IsValid →
    ∀ slug : String,
      readSource slug (article.dated time spelling) = .ok (article.front instant, article.content) ∧
      Post.read slug (article.dated time spelling) =
        if article.authored.draft then .error (.notFound slug)
        else .ok ⟨(article.front instant).summary slug, renderBody article.content⟩
  /-- The place makes no difference to an article. -/
  article : ∀ article : Article, article.IsSound →
    ∀ first second : Spelling, first.IsValid → second.IsValid → ∀ slug : String,
      Interchangeable slug (article.dated time first) (article.dated time second)
  /-- Nor does it to any other source with such a date. -/
  source : ∀ first second : Spelling, first.IsValid → second.IsValid →
    ∀ (frame : DateFrame) (slug raw other : String) (body : List Char),
      content? raw = some (frame.value ((time.inZone first.zone).text first), body) →
      content? other = some (frame.value ((time.inZone second.zone).text second), body) →
      Interchangeable slug raw other
  /-- In no listing does a post of the time stand in front of one of a later time. -/
  ordered : ∀ later : ClockTime, later.IsValid → time.Before later →
    ∀ (sources : List Source) (pattern : String) (posts : List Meta),
      index sources pattern = .ok posts →
      posts.Pairwise fun a b => ¬ (a.date.Shows time ∧ b.date.Shows later)
  /-- Of two articles the one of a later time is listed first, wherever both are dated. -/
  newest : ∀ later : ClockTime, later.IsShownEverywhere → time.Before later →
    ∀ article other : Article, article.IsSound → other.IsSound →
    article.authored.draft = false → other.authored.draft = false →
    ∀ first second : Spelling, first.IsValid → second.IsValid → ∀ slug next : String,
      ∃ instant' : Instant, instant'.Shows later ∧
        index [.readable slug (article.dated time first), .readable next (other.dated later second)]
            "" =
          .ok [(other.front instant').summary next, (article.front instant).summary slug] ∧
        index [.readable next (other.dated later second), .readable slug (article.dated time first)]
            "" =
          .ok [(other.front instant').summary next, (article.front instant).summary slug]

/-- Dates are instants, not texts. What two places show at one instant makes the same post, which
has the same place in a listing, and of two posts the one whose instant is later by at least a
nanosecond is listed first, whatever places their dates are written for. -/
theorem dates_are_instants {time : ClockTime} (htime : time.IsShownEverywhere) :
    ∃ instant, DatesAre time instant := by
  obtain ⟨instant, hinstant, hshows⟩ := ClockTime.exists_instant htime.valid
  refine ⟨instant, hshows, ?read, ?article, ?source, ?ordered, ?newest⟩
  case read =>
    intro article hsound spelling hspelling slug
    have hread := Article.read?_dated hsound htime hshows hspelling
    exact ⟨readSource_of_some hread, Post.read_of_some hread⟩
  case article =>
    intro article hsound first second hfirst hsecond slug
    apply interchangeable_of_read?
    rw [Article.read?_dated hsound htime hshows hfirst,
      Article.read?_dated hsound htime hshows hsecond]
  case source =>
    intro first second hfirst hsecond frame slug raw other body hraw hother
    refine interchangeable_of_content? ?_ hraw hother slug
    rw [htime.read?_inZone hfirst, htime.read?_inZone hsecond]
  case ordered =>
    intro later hlater hbefore sources pattern posts hindex
    refine (pairwise_of_index hindex).imp ?_
    rintro a b hle ⟨ha, hb⟩
    have hlt := ClockTime.lt_of_before htime.valid hlater hbefore
      (ClockTime.instant?_of_shows ha) (ClockTime.instant?_of_shows hb)
    rw [hle] at hlt
    cases hlt
  case newest =>
    intro later hlater hbefore article other hsound hother hdraft hdraft' first second hfirst
      hsecond slug next
    obtain ⟨instant', hinstant', hshows'⟩ := ClockTime.exists_instant hlater.valid
    have hlt := ClockTime.lt_of_before htime.valid hlater.valid hbefore hinstant hinstant'
    have hread := Article.read?_dated hsound htime hshows hfirst
    have hnext := Article.read?_dated hother hlater hshows' hsecond
    have hpair : IsListing
          [(article.front instant).summary slug, (other.front instant').summary next]
          [(other.front instant').summary next, (article.front instant).summary slug] ∧
        IsListing [(other.front instant').summary next, (article.front instant).summary slug]
          [(other.front instant').summary next, (article.front instant).summary slug] :=
      isListing_pair hlt
    exact ⟨instant', hshows', index_pair hread hnext hdraft hdraft' hpair.1,
      index_pair hnext hread hdraft' hdraft hpair.2⟩

/-- The night of a new year, half a second before its end. -/
def yearEnd : ClockTime := ⟨⟨2023, 12, 31⟩, 23, 59, 59, ['5']⟩

/-- Places that are ahead show the end of a year as the start of the next one. -/
theorem dates_are_instants_yearEnd :
    yearEnd.IsShownEverywhere ∧ ∃ instant, DatesAre yearEnd instant := by
  have hshown : yearEnd.IsShownEverywhere :=
    ⟨⟨⟨by decide, by decide, by decide, by decide⟩, by decide, by decide, by decide, by decide,
      by decide, List.all_eq_true.mp (by decide)⟩, by decide, by decide⟩
  exact ⟨hshown, dates_are_instants hshown⟩

/-- A source that is dated by a fraction of a second. -/
def fractionRaw (digits : String) : String :=
  "---\ntitle: T\ndescription: D\nauthor: A\ndate: 2024-01-02T03:04:05." ++ digits ++ "Z\n---\nx"

/-- The front matter of such a source, if the fraction is less than a nanosecond. -/
def fractionFront : FrontMatter :=
  { title := "T", description := "D", author := "A"
    date := { second := 1704164645, nano := 0 }
    tags := [], draft := false }

/-- The tenth digit of a fraction does not order posts: of two posts that differ in it the earlier
one stays in front. -/
theorem tenth_digit_does_not_order :
    Calendar.digitsValue "0000000001".toList < Calendar.digitsValue "0000000002".toList ∧
    index [.readable "first" (fractionRaw "0000000001"),
        .readable "second" (fractionRaw "0000000002")] "" =
      .ok [fractionFront.summary "first", fractionFront.summary "second"] := by
  have hfirst : FrontMatter.read? (fractionRaw "0000000001").toList =
      some (fractionFront, "x".toList) := by decide +kernel
  have hsecond : FrontMatter.read? (fractionRaw "0000000002").toList =
      some (fractionFront, "x".toList) := by decide +kernel
  refine ⟨by decide, index_pair hfirst hsecond rfl rfl ?_⟩
  exact ⟨.refl _, by simp [FrontMatter.summary], fun _ => rfl⟩

end Folio.Blog
