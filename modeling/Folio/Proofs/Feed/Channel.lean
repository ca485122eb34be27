import Folio.Feed.Channel
import Folio.Proofs.Blog.Agreement
import Folio.Proofs.Calendar.Date

/-!
# Which posts have a channel

A post may be of any year that dates have, and mail headers name the years 0 to 9999 only. So a
listing has a channel exactly if everything in it was published in these years in UTC; the address
of the site and its owner do not matter. The channel has one item for each post.
-/

namespace Folio.Calendar

/-- The second at which a year begins. -/
def yearStart (year : Int) : Int := Date.toDays ⟨year, 1, 1⟩ * 86400

/-- An instant is of the years that mail headers can name. -/
def Instant.InMailYears (instant : Instant) : Prop :=
  yearStart 0 ≤ instant.second ∧ instant.second < yearStart 10000

instance : DecidablePred Instant.InMailYears := fun instant =>
  inferInstanceAs (Decidable (yearStart 0 ≤ instant.second ∧ instant.second < yearStart 10000))

namespace Instant

/-- An instant lies before a year exactly if its date does. -/
theorem second_lt_yearStart_iff (instant : Instant) (year : Int) :
    instant.second < yearStart year ↔ instant.date.year < year := by
  obtain ⟨hvalid, hdays⟩ := Date.ofDays_spec (instant.second / 86400)
  rw [date, ← Date.toDays_lt_iff hvalid year, hdays, yearStart]
  omega

/-- The instants with a form for mail headers are those of the years that mail headers can name. -/
theorem isSome_mailText?_iff (instant : Instant) :
    instant.mailText?.isSome = true ↔ instant.InMailYears := by
  have hstart := instant.second_lt_yearStart_iff 0
  have hend := instant.second_lt_yearStart_iff 10000
  have hyears : instant.InMailYears ↔ 0 ≤ instant.date.year ∧ instant.date.year ≤ 9999 := by
    rw [InMailYears]
    omega
  rw [hyears, mailText?]
  simp only [Bool.and_eq_true, decide_eq_true_eq]
  split <;> simp_all

end Instant

end Folio.Calendar

namespace Folio.Feed

open Folio.Blog (Meta Search Source)

/-- The item of a post under an address; without a form of its date that date is empty. -/
def Item.ofPost (base : String) (post : Meta) : Item :=
  { title := post.title
    link := base ++ "/blog/" ++ post.slug
    description := post.description
    author := post.author
    categories := post.tags
    guid := base ++ "/blog/" ++ post.slug
    date := String.ofList (post.date.mailText?.getD []) }

/-- The channel of some posts if their dates allow one. -/
def Channel.ofPosts (origin : Origin) (posts : List Meta) : Channel :=
  { title := origin.owner ++ "'s Blog"
    link := baseOf origin.url ++ "/blog"
    description := "Notes and write-ups by " ++ origin.owner ++ "."
    language := "en-us"
    ttl := "60"
    selfLink := baseOf origin.url ++ "/rss.xml"
    items := posts.map (Item.ofPost (baseOf origin.url)) }

/-- A post has an item exactly if it is of the years that mail headers can name. -/
theorem Item.ofPost?_eq (base : String) (post : Meta) :
    Item.ofPost? base post =
      if post.date.InMailYears then some (Item.ofPost base post) else none := by
  have hdate := post.date.isSome_mailText?_iff
  rw [Item.ofPost?, Item.ofPost]
  cases hmail : post.date.mailText? with
  | none => rw [if_neg (by simp [← hdate, hmail])]; rfl
  | some text => rw [if_pos (by simp [← hdate, hmail])]; rfl

/-- What is made of each element is made of all if it is made of each, and else of none. -/
theorem mapM_ite {α β : Type} {p : α → Prop} [DecidablePred p] (f : α → β) (items : List α) :
    (items.mapM fun a => if p a then some (f a) else none) =
      if ∀ a ∈ items, p a then some (items.map f) else none := by
  induction items with
  | nil => simp
  | cons a items ih =>
    rw [List.mapM_cons, ih]
    by_cases ha : p a
    · by_cases hitems : ∀ b ∈ items, p b
      · rw [if_pos ha, if_pos hitems, if_pos (List.forall_mem_cons.mpr ⟨ha, hitems⟩)]
        rfl
      · rw [if_pos ha, if_neg hitems, if_neg fun h => hitems (List.forall_mem_cons.mp h).2]
        rfl
    · rw [if_neg ha, if_neg fun h => ha (List.forall_mem_cons.mp h).1]
      rfl

/-- Posts have a channel exactly if all are of the years that mail headers can name. -/
theorem Channel.ofPosts?_eq (origin : Origin) (posts : List Meta) :
    Channel.ofPosts? origin posts =
      if ∀ post ∈ posts, post.date.InMailYears then some (Channel.ofPosts origin posts)
      else none := by
  have hitems : posts.mapM (Item.ofPost? (baseOf origin.url)) =
      if ∀ post ∈ posts, post.date.InMailYears then
        some (posts.map (Item.ofPost (baseOf origin.url))) else none := by
    simp only [funext (Item.ofPost?_eq (baseOf origin.url)), mapM_ite]
  rw [Channel.ofPosts?, hitems, Channel.ofPosts]
  split <;> rfl

/-- Posts of the years that mail headers can name have a channel. -/
theorem Channel.ofPosts?_eq_some_iff {origin : Origin} {posts : List Meta} {channel : Channel} :
    Channel.ofPosts? origin posts = some channel ↔
      (∀ post ∈ posts, post.date.InMailYears) ∧ channel = Channel.ofPosts origin posts := by
  rw [Channel.ofPosts?_eq]
  split
  case isTrue hyears => exact ⟨fun h => ⟨hyears, (Option.some.inj h).symm⟩, fun h => h.2 ▸ rfl⟩
  case isFalse hyears => simp [hyears]

/-- A source that is no draft is listed. -/
theorem index_source {slug raw : String} {front : Blog.FrontMatter} {body : List Char}
    (hfront : Blog.FrontMatter.read? raw.toList = some (front, body))
    (hdraft : front.draft = false) :
    Blog.index [.readable slug raw] "" = .ok [front.summary slug] := by
  obtain ⟨regex, hcompile⟩ := Blog.compile_nothing
  have hlisted : Source.listed? ⟨"", regex⟩ (.readable slug raw) = some (front.summary slug) := by
    simp [Source.listed?, hfront, hdraft, Search.finds]
  have hnone : ∀ source ∈ [Source.readable slug raw], ∀ fault,
      ¬ source.Faults ⟨"", regex⟩ fault :=
    List.forall_mem_singleton.mpr (Source.not_faults_of_some _ hfront)
  rw [Blog.index_of_pattern hcompile, Blog.entries_of_no_fault hnone]
  simp [hlisted, Except.map, Blog.newestFirst]

/-- A listing has a channel, from whatever origin, exactly if every post that its sources list was
published in a year that mail headers can name. The channel has one item for each post, in the order
of the listing. -/
theorem listing_has_channel_iff {sources : List Source} {pattern : String} {posts : List Meta}
    (hlisting : Blog.index sources pattern = .ok posts) (origin : Origin) :
    ∃ search, Search.ofPattern pattern = .ok search ∧
      ((∃ channel, Channel.ofPosts? origin posts = some channel) ↔
        ∀ source ∈ sources, ∀ post, source.listed? search = some post →
          post.date.InMailYears) ∧
      ∀ channel, Channel.ofPosts? origin posts = some channel →
        channel.items = posts.map (Item.ofPost (baseOf origin.url)) := by
  cases hcompile : Pattern.compile pattern.toList with
  | error reason =>
    rw [Blog.index_of_bad_pattern hcompile] at hlisting
    cases hlisting
  | ok regex =>
    obtain ⟨-, hposts⟩ := (Blog.index_eq_ok_iff hcompile).mp hlisting
    have hmem (post : Meta) : post ∈ posts ↔
        ∃ source ∈ sources, source.listed? ⟨pattern, regex⟩ = some post := by
      rw [hposts.perm.mem_iff, List.mem_filterMap]
    refine ⟨⟨pattern, regex⟩, by rw [Search.ofPattern, hcompile], ?_, fun channel hchannel => ?_⟩
    · constructor
      · rintro ⟨channel, hchannel⟩ source hsource post hlisted
        exact (Channel.ofPosts?_eq_some_iff.mp hchannel).1 post
          ((hmem post).mpr ⟨source, hsource, hlisted⟩)
      · intro hyears
        refine ⟨_, Channel.ofPosts?_eq_some_iff.mpr ⟨fun post hpost => ?_, rfl⟩⟩
        obtain ⟨source, hsource, hlisted⟩ := (hmem post).mp hpost
        exact hyears source hsource post hlisted
    · rw [(Channel.ofPosts?_eq_some_iff.mp hchannel).2, Channel.ofPosts]

/-- A source with a date. -/
def datedRaw (date : String) : String :=
  "---\ntitle: T\ndescription: D\nauthor: A\ndate: " ++ date ++ "\n---\nText"

/-- What is listed for that source if it was published at an instant. -/
def datedFront (date : Calendar.Instant) : Blog.FrontMatter :=
  { title := "T", description := "D", author := "A", date, tags := [], draft := false }

/-- The last second of the year 9999, an hour into the next one where it is written. -/
def lastMailSecond : Calendar.Instant := { second := 253402300799, nano := 0 }

/-- A post of that second has a channel. -/
theorem listing_has_channel_iff_last :
    Blog.index [.readable "last" (datedRaw "+10000-01-01T00:59:59+01:00")] "" =
      .ok [(datedFront lastMailSecond).summary "last"] ∧
    ∃ search, Search.ofPattern "" = .ok search ∧
      ((∃ channel, Channel.ofPosts? ⟨"https://example.com", "A"⟩
          [(datedFront lastMailSecond).summary "last"] = some channel) ↔
        ∀ source ∈ [Source.readable "last" (datedRaw "+10000-01-01T00:59:59+01:00")],
          ∀ post, source.listed? search = some post → post.date.InMailYears) ∧
      ∀ channel, Channel.ofPosts? ⟨"https://example.com", "A"⟩
          [(datedFront lastMailSecond).summary "last"] = some channel →
        channel.items = [(datedFront lastMailSecond).summary "last"].map
          (Item.ofPost (baseOf "https://example.com")) := by
  have hfront : Blog.FrontMatter.read? (datedRaw "+10000-01-01T00:59:59+01:00").toList =
      some (datedFront lastMailSecond, "Text".toList) := by decide +kernel
  have hlisting : Blog.index [.readable "last" (datedRaw "+10000-01-01T00:59:59+01:00")] "" =
      .ok [(datedFront lastMailSecond).summary "last"] := index_source hfront rfl
  exact ⟨hlisting, listing_has_channel_iff hlisting _⟩

/-- A second in the year 12024. -/
def farSecond : Calendar.Instant := { second := 317273684645, nano := 0 }

/-- A post of the year 12024 is listed and has no channel from any origin. -/
theorem listing_has_channel_iff_far :
    Blog.index [.readable "far" (datedRaw "+12024-01-02T03:04:05Z")] "" =
      .ok [(datedFront farSecond).summary "far"] ∧
    ∀ origin, Channel.ofPosts? origin [(datedFront farSecond).summary "far"] = none := by
  have hfront : Blog.FrontMatter.read? (datedRaw "+12024-01-02T03:04:05Z").toList =
      some (datedFront farSecond, "Text".toList) := by decide +kernel
  refine ⟨index_source hfront rfl, fun origin => ?_⟩
  rw [Channel.ofPosts?_eq, if_neg]
  rw [List.forall_mem_singleton]
  decide

end Folio.Feed
