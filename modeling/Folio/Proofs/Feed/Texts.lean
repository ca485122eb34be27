import Folio.Proofs.Feed.Channel
import Folio.Proofs.Feed.Element

/-!
# No text damages a feed

The texts of posts, of the owner and of the address may hold tags, references, quotes and end marks
of sections. A reader of the feed sees them as they are: the tags of a feed depend on the numbers of
posts and of their tags only, and the tree is that of the channel, on one line and with an indent.
-/

namespace Folio.Feed

open Folio.Blog (Meta)
open Xml (Element Mark allSound allSound_iff elements elements_eq_map isSound marks marks?
  marksAll marksAll_eq_flatMap)

/-- The tags of elements that hold a text each. -/
def textMarks (names : List String) : List Mark :=
  names.flatMap fun name => [.opened name, .closed name]

/-- The tags of an item with a number of categories. -/
def itemMarks (categories : Nat) : List Mark :=
  .opened "item" ::
    textMarks (["title", "link", "description", "author"] ++
      List.replicate categories "category" ++ ["guid", "pubDate"]) ++
    [.closed "item"]

/-- The tags of a feed with a number of categories in each item. -/
def feedMarks (categories : List Nat) : List Mark :=
  [.opened "rss", .opened "channel"] ++
    textMarks ["title", "link", "description", "language", "ttl"] ++ [.empty "atom:link"] ++
    categories.flatMap itemMarks ++ [.closed "channel", .closed "rss"]

/-- The tree of an item under an address. -/
def itemElement (base : String) (post : Meta) : Element :=
  { name := "item"
    children :=
      [{ name := "title", content := post.title },
        { name := "link", content := base ++ "/blog/" ++ post.slug },
        { name := "description", content := post.description },
        { name := "author", content := post.author }] ++
      post.tags.map (fun tag => { name := "category", content := tag }) ++
      [{ name := "guid", content := base ++ "/blog/" ++ post.slug },
        { name := "pubDate", content := String.ofList (post.date.mailText?.getD []) }] }

/-- The tree of a feed. -/
def feedElement (origin : Origin) (posts : List Meta) : Element :=
  { name := "rss"
    attributes := [("version", "2.0"), ("xmlns:atom", "http://www.w3.org/2005/Atom")]
    children :=
      [{ name := "channel"
         children :=
          [{ name := "title", content := origin.owner ++ "'s Blog" },
            { name := "link", content := baseOf origin.url ++ "/blog" },
            { name := "description", content := "Notes and write-ups by " ++ origin.owner ++ "." },
            { name := "language", content := "en-us" },
            { name := "ttl", content := "60" },
            { name := "atom:link"
              attributes := [("href", baseOf origin.url ++ "/rss.xml"), ("rel", "self"),
                ("type", "application/rss+xml")] }] ++
          posts.map (itemElement (baseOf origin.url)) }] }

/-- Items are read as they are written. -/
theorem Item.isSound_xml (item : Item) : item.xml.isSound = true := by
  have hwords : ∀ name ∈ ["item", "title", "link", "description", "author", "category", "guid",
      "pubDate"], Xml.isWord name = true := by decide
  simp only [List.forall_mem_cons] at hwords
  simp [Item.xml, isSound, allSound_iff, or_imp, forall_and, hwords]

/-- Channels are read as they are written. -/
theorem Channel.isSound_xml (channel : Channel) : channel.xml.isSound = true := by
  have hwords : ∀ name ∈ ["rss", "version", "xmlns:atom", "channel", "title", "link", "description",
      "language", "ttl", "atom:link", "href", "rel", "type"], Xml.isWord name = true := by decide
  simp only [List.forall_mem_cons] at hwords
  simp [Channel.xml, isSound, allSound_iff, or_imp, forall_and, hwords, Item.isSound_xml]

/-- The item of a post has the tree that a reader should see. -/
theorem Item.element_xml (base : String) (post : Meta) :
    (Item.ofPost base post).xml.element = itemElement base post := by
  simp [Item.ofPost, Item.xml, Xml.element, elements_eq_map, itemElement]

/-- The channel of posts has the tree that a reader should see. -/
theorem Channel.element_xml (origin : Origin) (posts : List Meta) :
    (Channel.ofPosts origin posts).xml.element = feedElement origin posts := by
  simp [Channel.ofPosts, Channel.xml, Xml.element, elements_eq_map, feedElement, Item.element_xml]

/-- The tags of an item depend on the number of its categories only. -/
theorem Item.marks_xml (item : Item) : item.xml.marks = itemMarks item.categories.length := by
  simp [Item.xml, marks, marksAll_eq_flatMap, itemMarks, textMarks, List.flatMap_map,
    ← List.map_const']

/-- The tags of a channel depend on the numbers of categories in its items only. -/
theorem Channel.marks_xml (channel : Channel) :
    channel.xml.marks = feedMarks (channel.items.map fun item => item.categories.length) := by
  simp [Channel.xml, marks, marksAll_eq_flatMap, feedMarks, textMarks, List.flatMap_map,
    Item.marks_xml]

/-- The feed of posts that mail headers can date has the tags that the numbers of posts and of their
tags call for, and it is read as its tree: on one line and with an indent, whatever its texts
are. -/
theorem feed_texts_survive {posts : List Meta} (hyears : ∀ post ∈ posts, post.date.InMailYears)
    (origin : Origin) :
    ∃ channel, Channel.ofPosts? origin posts = some channel ∧
      ∀ text ∈ [channel.compactText, channel.text],
        marks? text.toList = some (feedMarks (posts.map fun post => post.tags.length)) ∧
        Element.read? text.toList = some (feedElement origin posts) := by
  refine ⟨_, Channel.ofPosts?_eq_some_iff.mpr ⟨hyears, rfl⟩, fun text htext => ?_⟩
  obtain ⟨indent, rfl⟩ : ∃ indent, text =
      String.ofList ((Channel.ofPosts origin posts).xml.document indent) := by
    rw [List.mem_cons, List.mem_singleton] at htext
    exact htext.elim (fun h => ⟨none, h⟩) fun h => ⟨some 2, h⟩
  have hsound := (Channel.ofPosts origin posts).isSound_xml
  have hcategories : ((Channel.ofPosts origin posts).items.map fun item => item.categories.length) =
      posts.map fun post => post.tags.length := by
    simp [Channel.ofPosts, Item.ofPost]
  rw [String.toList_ofList]
  exact ⟨by rw [Xml.marks?_document indent hsound, Channel.marks_xml, hcategories],
    by rw [Xml.read?_document indent hsound, Channel.element_xml]⟩

/-- A post whose texts are markup, references and end marks of sections. -/
def hostileMeta : Meta :=
  { slug := "a\"b"
    title := "</title><item>"
    description := "]]]>]]><item>&lt;"
    author := "A & B"
    date := { second := 1000000000, nano := 0 }
    tags := ["]]>", "<!--"] }

/-- An address and an owner with markup in their texts. -/
def hostileOrigin : Origin := { url := "https://a/?\"<&>'/", owner := "<b>" }

/-- The feed of that post from that origin. -/
theorem feed_texts_survive_hostile :
    (∀ post ∈ [hostileMeta], post.date.InMailYears) ∧
    ∃ channel, Channel.ofPosts? hostileOrigin [hostileMeta] = some channel ∧
      ∀ text ∈ [channel.compactText, channel.text],
        marks? text.toList = some (feedMarks [2]) ∧
        Element.read? text.toList = some (feedElement hostileOrigin [hostileMeta]) := by
  have hyears : ∀ post ∈ [hostileMeta], post.date.InMailYears :=
    List.forall_mem_singleton.mpr (by decide)
  exact ⟨hyears, feed_texts_survive hyears hostileOrigin⟩

end Folio.Feed
