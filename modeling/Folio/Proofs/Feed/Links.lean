import Folio.Content.Site
import Folio.Proofs.Calendar.MailDate
import Folio.Proofs.Feed.Channel
import Folio.Proofs.Text.Trim
import Mathlib.Data.List.Forall2
import Mathlib.Data.List.Zip

/-!
# The links and the items of a channel

All links of a channel begin with one base: the address of the site, without blanks at its ends and
then without slashes at its end. An origin is refused if the address is blank, and it is not refused
if the address has nothing but slashes; this is the one case in which the base is empty and the
links are relative.

A channel has one item for each post, in the order of the posts, and the item says what the post
says: its texts as they are, its tags as categories, its link under the base, and the second at
which it was published. Posts of different slugs have different links. Slashes at the end of the
address make no difference.
-/

namespace Folio.Feed

open Folio.Blog (Meta)
open Folio.Calendar (NamesSecond namesSecond_of_mailText?)
open Folio.Content (Profile)
open Folio.Text (dropEndWhile_eq_rdropWhile)

/-- The base of an address does not end with a slash. -/
theorem getLast?_baseOf (url : String) : (baseOf url).toList.getLast? ≠ some '/' := by
  rw [baseOf, String.toList_ofList, dropEndWhile_eq_rdropWhile]
  intro hlast
  obtain ⟨hne, hslash⟩ := List.mem_getLast?_eq_getLast hlast
  have hkept := List.rdropWhile_last_not (· = '/') url.toList hne
  rw [← hslash] at hkept
  exact hkept (decide_eq_true rfl)

/-- The base of an address is empty exactly if the address has nothing but slashes. -/
theorem baseOf_eq_empty_iff {url : String} : baseOf url = "" ↔ ∀ c ∈ url.toList, c = '/' := by
  rw [baseOf, dropEndWhile_eq_rdropWhile, ← String.toList_eq_nil_iff, String.toList_ofList,
    List.rdropWhile_eq_nil_iff]
  simp only [decide_eq_true_eq]

/-- An origin is accepted exactly if neither the address that counts nor the name is blank. -/
theorem Origin.of_eq_ok_iff {siteUrl : Option String} {profile : Profile} {origin : Origin} :
    Origin.of siteUrl profile = .ok origin ↔
      (trimmed (siteUrl.getD profile.siteUrl) ≠ "" ∧ trimmed profile.name ≠ "") ∧
        origin = ⟨trimmed (siteUrl.getD profile.siteUrl), trimmed profile.name⟩ := by
  rw [Origin.of]
  simp only [String.isEmpty_iff]
  split
  case isTrue hurl => simp [hurl]
  case isFalse hurl =>
    split
    case isTrue howner => simp [howner]
    case isFalse howner =>
      rw [Except.ok.injEq]
      exact ⟨fun h => ⟨⟨hurl, howner⟩, h.symm⟩, fun h => h.2.symm⟩

/-- Every link of the channel of some posts is a base and its own path. -/
structure LinksUnder (base : String) (posts : List Meta) (channel : Channel) : Prop where
  link_eq : channel.link = base ++ "/blog"
  selfLink_eq : channel.selfLink = base ++ "/rss.xml"
  links_eq : channel.items.map Item.link = posts.map fun post => base ++ "/blog/" ++ post.slug
  guids_eq : channel.items.map Item.guid = posts.map fun post => base ++ "/blog/" ++ post.slug

/-- The links of a channel begin with the base of the address. -/
theorem linksUnder_baseOf {origin : Origin} {posts : List Meta} {channel : Channel}
    (h : Channel.ofPosts? origin posts = some channel) :
    LinksUnder (baseOf origin.url) posts channel := by
  obtain ⟨-, rfl⟩ := Channel.ofPosts?_eq_some_iff.mp h
  exact ⟨rfl, rfl, by simp [Channel.ofPosts, Item.ofPost], by simp [Channel.ofPosts, Item.ofPost]⟩

/-- All links of a channel from an accepted origin begin with one base that does not end with a
slash. It is empty, so that the links are relative, exactly if the address has nothing but slashes
besides blanks at its ends. -/
theorem feed_links_share_base {siteUrl : Option String} {profile : Profile} {origin : Origin}
    (horigin : Origin.of siteUrl profile = .ok origin) {posts : List Meta} {channel : Channel}
    (hchannel : Channel.ofPosts? origin posts = some channel) :
    ∃ base, LinksUnder base posts channel ∧ base.toList.getLast? ≠ some '/' ∧
      (base = "" ↔ ∀ c ∈ (trimmed (siteUrl.getD profile.siteUrl)).toList, c = '/') := by
  obtain ⟨-, rfl⟩ := Origin.of_eq_ok_iff.mp horigin
  exact ⟨_, linksUnder_baseOf hchannel, getLast?_baseOf _, baseOf_eq_empty_iff⟩

/-- A post that is listed under the slug "hello". -/
def helloMeta : Meta := { (default : Meta) with slug := "hello" }

/-- That post has a channel from every origin. -/
theorem ofPosts?_helloMeta (origin : Origin) :
    Channel.ofPosts? origin [helloMeta] = some (Channel.ofPosts origin [helloMeta]) :=
  Channel.ofPosts?_eq_some_iff.mpr
    ⟨List.forall_mem_singleton.mpr (show helloMeta.date.InMailYears by decide), rfl⟩

/-- An address with blanks around it and slashes at its end. -/
theorem feed_links_share_base_padded :
    Origin.of (some " https://example.com// ") Content.Site.profile =
      .ok ⟨"https://example.com//", "Arnab"⟩ ∧
    Channel.ofPosts? ⟨"https://example.com//", "Arnab"⟩ [helloMeta] =
      some (Channel.ofPosts ⟨"https://example.com//", "Arnab"⟩ [helloMeta]) ∧
    ∃ base, LinksUnder base [helloMeta]
        (Channel.ofPosts ⟨"https://example.com//", "Arnab"⟩ [helloMeta]) ∧
      base.toList.getLast? ≠ some '/' ∧
      (base = "" ↔ ∀ c ∈ (trimmed ((some " https://example.com// ").getD
        Content.Site.profile.siteUrl)).toList, c = '/') := by
  have horigin : Origin.of (some " https://example.com// ") Content.Site.profile =
      .ok ⟨"https://example.com//", "Arnab"⟩ := by decide +kernel
  have hchannel := ofPosts?_helloMeta ⟨"https://example.com//", "Arnab"⟩
  exact ⟨horigin, hchannel, feed_links_share_base horigin hchannel⟩

/-- An address that is one slash is accepted, and all links are relative. -/
theorem feed_links_share_base_slash :
    Origin.of (some "/") Content.Site.profile = .ok ⟨"/", "Arnab"⟩ ∧
    ∃ channel, Channel.ofPosts? ⟨"/", "Arnab"⟩ [helloMeta] = some channel ∧
      channel.link = "/blog" ∧ channel.selfLink = "/rss.xml" ∧
      channel.items.map Item.link = ["/blog/hello"] ∧
      ¬ ∃ base, base ≠ "" ∧ LinksUnder base [helloMeta] channel := by
  have hlink : (Channel.ofPosts ⟨"/", "Arnab"⟩ [helloMeta]).link = "/blog" := by decide +kernel
  refine ⟨by decide +kernel, _, ofPosts?_helloMeta _, hlink, by decide +kernel,
    by decide +kernel, ?_⟩
  rintro ⟨base, hbase, hlinks⟩
  have hlength := congrArg String.length (hlinks.link_eq.symm.trans hlink)
  rw [String.length_append, Nat.add_eq_right] at hlength
  exact hbase (String.length_eq_zero_iff.mp hlength)

/-- An address with further slashes at its end. -/
def slashed (url : String) (n : Nat) : String := url ++ String.ofList (List.replicate n '/')

/-- An address is its base with slashes at the end. -/
theorem exists_eq_slashed (url : String) : ∃ n, url = slashed (baseOf url) n := by
  have hsplit := List.rdropWhile_append_rtakeWhile (p := (· = '/')) (l := url.toList)
  have hslashes : ∀ c ∈ url.toList.rtakeWhile (· = '/'), c = '/' := fun c hc => by
    simpa using List.mem_rtakeWhile_imp hc
  refine ⟨(url.toList.rtakeWhile (· = '/')).length, ?_⟩
  rw [slashed, baseOf, dropEndWhile_eq_rdropWhile, ← List.eq_replicate_of_mem hslashes,
    ← String.ofList_append, hsplit, String.ofList_toList]

/-- Further slashes do not change the base of an address. -/
theorem baseOf_slashed (url : String) (n : Nat) : baseOf (slashed url n) = baseOf url := by
  have hslashes : ∀ c ∈ (List.replicate n '/').reverse, decide (c = '/') = true := fun c hc => by
    rw [List.reverse_replicate] at hc
    exact decide_eq_true (List.eq_of_mem_replicate hc)
  rw [slashed, baseOf, baseOf, String.toList_append, String.toList_ofList,
    dropEndWhile_eq_rdropWhile, dropEndWhile_eq_rdropWhile, List.rdropWhile, List.rdropWhile,
    List.reverse_append, List.dropWhile_append_of_pos hslashes]

/-- An item says of a post what a channel is to say of it. -/
structure Item.Mirrors (base : String) (item : Item) (post : Meta) : Prop where
  title : item.title = post.title
  description : item.description = post.description
  author : item.author = post.author
  categories : item.categories = post.tags
  link : item.link = base ++ "/blog/" ++ post.slug
  guid : item.guid = base ++ "/blog/" ++ post.slug
  date : NamesSecond item.date.toList post.date

/-- The item of a post of the years that mail headers can name mirrors it. -/
theorem Item.mirrors_ofPost (base : String) {post : Meta} (hyears : post.date.InMailYears) :
    (Item.ofPost base post).Mirrors base post where
  title := rfl
  description := rfl
  author := rfl
  categories := rfl
  link := rfl
  guid := rfl
  date := by
    obtain ⟨text, htext⟩ := Option.isSome_iff_exists.mp (post.date.isSome_mailText?_iff.mpr hyears)
    rw [Item.ofPost, htext, Option.getD_some, String.toList_ofList]
    exact namesSecond_of_mailText? htext

/-- Items that mirror posts have one identifier exactly if the posts have one slug. -/
theorem Item.Mirrors.guid_eq_iff {base : String} {item other : Item} {post post' : Meta}
    (h : item.Mirrors base post) (h' : other.Mirrors base post') :
    item.guid = other.guid ↔ post.slug = post'.slug := by
  rw [h.guid, h'.guid, String.append_right_inj]

/-- Posts of the years that mail headers can name have a channel from every origin. It has one item
for each post in their order, and the item mirrors the post under the address without the slashes at
its end. Two items have one identifier exactly if their posts have one slug, and with further
slashes at the end of the address the channel is the same. -/
theorem items_mirror_posts (url owner : String) {posts : List Meta}
    (hyears : ∀ post ∈ posts, post.date.InMailYears) :
    ∃ base slashes channel, url = slashed base slashes ∧ base.toList.getLast? ≠ some '/' ∧
      Channel.ofPosts? ⟨url, owner⟩ posts = some channel ∧
      List.Forall₂ (Item.Mirrors base) channel.items posts ∧
      (∀ pair ∈ channel.items.zip posts, ∀ other ∈ channel.items.zip posts,
        pair.1.guid = other.1.guid ↔ pair.2.slug = other.2.slug) ∧
      ∀ more, Channel.ofPosts? ⟨slashed url more, owner⟩ posts = some channel := by
  obtain ⟨slashes, hslashes⟩ := exists_eq_slashed url
  have hmirrors : List.Forall₂ (Item.Mirrors (baseOf url))
      (Channel.ofPosts ⟨url, owner⟩ posts).items posts := by
    rw [Channel.ofPosts, List.forall₂_map_left_iff, List.forall₂_same]
    exact fun post hpost => Item.mirrors_ofPost (baseOf url) (hyears post hpost)
  have hpair : ∀ pair ∈ (Channel.ofPosts ⟨url, owner⟩ posts).items.zip posts,
      Item.Mirrors (baseOf url) pair.1 pair.2 := fun _ h => (List.forall₂_iff_zip.mp hmirrors).2 h
  refine ⟨baseOf url, slashes, Channel.ofPosts ⟨url, owner⟩ posts, hslashes, getLast?_baseOf url,
    Channel.ofPosts?_eq_some_iff.mpr ⟨hyears, rfl⟩, hmirrors, ?_, fun more => ?_⟩
  · intro pair hmem other hother
    exact (hpair pair hmem).guid_eq_iff (hpair other hother)
  · rw [Channel.ofPosts?_eq_some_iff, Channel.ofPosts, Channel.ofPosts, baseOf_slashed]
    exact ⟨hyears, rfl⟩

/-- A post of the middle of a leap second and one of the first year, under one slug and another. -/
def leapPosts : List Meta :=
  [{ helloMeta with date := { second := 1483228799, nano := 1500000000 } },
    { helloMeta with slug := "first", date := { second := -62167219200, nano := 1 } }]

/-- The posts of a leap second and of the first year under an address with two slashes. -/
theorem items_mirror_posts_leap :
    (∀ post ∈ leapPosts, post.date.InMailYears) ∧
    ∃ base slashes channel, "https://example.com//" = slashed base slashes ∧
      base.toList.getLast? ≠ some '/' ∧
      Channel.ofPosts? ⟨"https://example.com//", "Arnab"⟩ leapPosts = some channel ∧
      List.Forall₂ (Item.Mirrors base) channel.items leapPosts ∧
      (∀ pair ∈ channel.items.zip leapPosts, ∀ other ∈ channel.items.zip leapPosts,
        pair.1.guid = other.1.guid ↔ pair.2.slug = other.2.slug) ∧
      ∀ more, Channel.ofPosts? ⟨slashed "https://example.com//" more, "Arnab"⟩ leapPosts =
        some channel := by
  have hyears : ∀ post ∈ leapPosts, post.date.InMailYears := by decide
  exact ⟨hyears, items_mirror_posts "https://example.com//" "Arnab" hyears⟩

end Folio.Feed
