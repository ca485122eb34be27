import Folio.Feed.Publish
import Folio.Proofs.Feed.Links

/-!
# What publishing leaves behind

Publishing ends in one of three ways: the origin is refused, the folder is missing, or the feed is
written whole. The exit code, the one line of the log and the file belong to the same one of them,
whatever address is given. A blank address is refused and not replaced by that of the profile. The
posts of the site can always be listed and are of years that a feed can name, so that nothing else
can fail.
-/

namespace Folio.Blog

/-- Everything that the site lists is of the day of its overview of constrained decoding. -/
theorem Archive.date_of_listing {posts : List Meta} (h : Archive.listing "" = .ok posts) :
    ∀ post ∈ posts, post.date = Archive.constrainedDecodingFront.date := by
  obtain ⟨all, hall, hmem⟩ := Archive.listing_all
  rw [h, Except.ok.injEq] at hall
  subst hall
  intro post hpost
  obtain ⟨slug, answer, hanswer, rfl⟩ := (hmem post).mp hpost
  obtain ⟨raw, hraw, hread⟩ := Archive.post_eq_ok_iff.mp hanswer
  obtain ⟨body, hfront⟩ := Archive.front_of_raw hraw
  obtain ⟨front, _, hother, -, rfl⟩ := Post.read_eq_ok_iff.mp hread
  rw [hfront, Option.some.injEq, Prod.mk.injEq] at hother
  rw [hother.1]
  rfl

end Folio.Blog

namespace Folio.Feed

open Folio.Content (Site.profile)
open Folio.Text (dropEndWhile_eq_rdropWhile isBlank)

/-- Nothing is left of a text without its blanks at the ends exactly if it is blank. -/
theorem trimmed_eq_empty_iff {s : String} : trimmed s = "" ↔ ∀ c ∈ s.toList, isBlank c = true := by
  rw [trimmed, ← String.toList_eq_nil_iff, String.toList_ofList, Text.trim, Text.trimEnd,
    dropEndWhile_eq_rdropWhile, List.rdropWhile_eq_nil_iff, Text.trimStart]
  constructor
  · intro h
    rw [← List.dropWhile_eq_nil_iff]
    by_contra hne
    have hfirst := List.head_dropWhile_not isBlank hne
    rw [h _ (List.head_mem hne)] at hfirst
    cases hfirst
  · intro h c hc
    exact h c ((List.dropWhile_suffix _).subset hc)

/-- The site has an origin unless an address is given that is blank. -/
theorem origin_refused_iff {siteUrl : Option String} {fault : Fault} :
    Origin.of siteUrl Site.profile = .error fault ↔
      fault = .noSiteUrl ∧ ∃ url, siteUrl = some url ∧ ∀ c ∈ url.toList, isBlank c = true := by
  have howner : trimmed Site.profile.name ≠ "" := by decide
  have hown : trimmed Site.profile.siteUrl ≠ "" := by decide +kernel
  simp only [← trimmed_eq_empty_iff]
  simp only [Origin.of, String.isEmpty_iff, howner, if_false]
  cases siteUrl with
  | none => rw [Option.getD_none, if_neg hown]; simp
  | some url =>
    rw [Option.getD_some]
    by_cases hurl : trimmed url = ""
    · simp only [hurl, if_true, Except.error.injEq, Option.some.injEq, exists_eq_left', and_true]
      exact eq_comm
    · simp [hurl]

/-- What publishing some posts comes to, given an address and whether there is a folder. -/
structure Publishes (siteUrl : Option String) (folder : Bool) (posts : List Blog.Meta)
    (outcome : Outcome) : Prop where
  /-- It succeeds exactly if there are an origin and a folder. -/
  succeeds_iff : outcome.exitCode = 0 ↔
    (∃ origin, Origin.of siteUrl Site.profile = .ok origin) ∧ folder = true
  /-- Then the file has the feed of the posts, and the log says how many items that has. -/
  written : ∀ origin, Origin.of siteUrl Site.profile = .ok origin → folder = true →
    ∃ channel, Channel.ofPosts? origin posts = some channel ∧
      outcome.file = some channel.text ∧
      outcome.log =
        ["INFO rss: wrote " ++ toString channel.items.length ++ " posts to public/rss.xml"]
  /-- Otherwise there is no file. -/
  nothing : outcome.exitCode ≠ 0 → outcome.exitCode = 1 ∧ outcome.file = none
  /-- The log says why there is no origin, also if the folder is missing. -/
  refused : ∀ fault, Origin.of siteUrl Site.profile = .error fault →
    outcome.log = ["ERROR rss: " ++ fault.message]
  /-- With an origin the log says that there is no folder. -/
  missing : ∀ origin, Origin.of siteUrl Site.profile = .ok origin → folder = false →
    outcome.log =
      ["ERROR rss: couldn't write public/rss.xml: No such file or directory (os error 2)"]

variable {siteUrl : Option String} {folder : Bool}

/-- Without an origin nothing is published. -/
theorem publish?_of_refused {fault : Fault}
    (h : Origin.of siteUrl Site.profile = .error fault) :
    publish? siteUrl folder = some (.failure fault.message) := by
  rw [publish?, h]

/-- With an origin the channel of the listing is published, unless there is no folder. -/
theorem publish?_of_channel {origin : Origin} {posts : List Blog.Meta} {channel : Channel}
    (horigin : Origin.of siteUrl Site.profile = .ok origin)
    (hlist : (Blog.Cache.empty.list "").1 = .ok posts)
    (hchannel : Channel.ofPosts? origin posts = some channel) :
    publish? siteUrl folder =
      some (if folder then
        { exitCode := 0
          log := ["INFO rss: wrote " ++ toString posts.length ++ " posts to public/rss.xml"]
          file := some channel.text }
      else .failure "couldn't write public/rss.xml: No such file or directory (os error 2)") := by
  have hpath (s : String) : s ++ " posts to " ++ outputPath = s ++ " posts to public/rss.xml" := by
    rw [String.append_assoc]
    rfl
  rw [publish?, horigin, hlist]
  simp only [hchannel, hpath]
  cases folder <;> rfl

/-- Publishing is all or nothing: it publishes the listing of all posts or leaves no file, and its
exit code and its log agree with that. A blank address is refused, although the profile has one. -/
theorem publish_all_or_nothing (siteUrl : Option String) (folder : Bool) :
    ∃ posts outcome, (Blog.Cache.empty.list "").1 = .ok posts ∧
      publish? siteUrl folder = some outcome ∧
      Publishes siteUrl folder posts outcome ∧
      ∀ url, siteUrl = some url → (∀ c ∈ url.toList, isBlank c = true) →
        Origin.of siteUrl Site.profile = .error .noSiteUrl := by
  obtain ⟨posts, hlisting, -⟩ := Blog.Archive.listing_all
  have hlist : (Blog.Cache.empty.list "").1 = .ok posts := by
    rw [Blog.Cache.list_of_posts rfl hlisting]
  have hyears : ∀ post ∈ posts, post.date.InMailYears := by
    intro post hpost
    rw [Blog.Archive.date_of_listing hlisting post hpost]
    decide
  have hblank : ∀ url, siteUrl = some url → (∀ c ∈ url.toList, isBlank c = true) →
      Origin.of siteUrl Site.profile = .error .noSiteUrl :=
    fun url hurl hblank => origin_refused_iff.mpr ⟨rfl, url, hurl, hblank⟩
  suffices houtcome : ∃ outcome, publish? siteUrl folder = some outcome ∧
      Publishes siteUrl folder posts outcome by
    obtain ⟨outcome, hpublish, htells⟩ := houtcome
    exact ⟨posts, outcome, hlist, hpublish, htells, hblank⟩
  cases horigin : Origin.of siteUrl Site.profile with
  | error fault =>
    refine ⟨_, publish?_of_refused horigin, ?_⟩
    constructor <;> simp [horigin, Outcome.failure]
  | ok origin =>
    have hchannel : Channel.ofPosts? origin posts = some (Channel.ofPosts origin posts) :=
      Channel.ofPosts?_eq_some_iff.mpr ⟨hyears, rfl⟩
    have hcount : (Channel.ofPosts origin posts).items.length = posts.length := by
      simp [Channel.ofPosts]
    refine ⟨_, publish?_of_channel horigin hlist hchannel, ?_⟩
    cases folder
    case false => constructor <;> simp [horigin, Outcome.failure]
    case true => constructor <;> simp [horigin, hchannel, hcount]

end Folio.Feed
