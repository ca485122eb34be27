import Folio.Proofs.Site.BlogMarkup
import Folio.Proofs.Site.FrontEnds

/-!
# What the pages of the blog escape

The main parts of the pages of the blog are read as they are meant, whatever texts the posts hold:
their elements depend on how many posts and tags there are, each text is read whole, and only the
article of a post is markup. The title of a page is the one place where a text is not escaped. It is
read as it is meant only if it has neither tags nor references, and a title with tags can end itself
and begin a main part of its own.
-/

namespace Folio.Site

open Folio.Blog (Cache Meta Post)
open Document

variable {portfolio : Portfolio} {built address slug : String} {cache : Cache} {mark : List Char}

/-- The document of a page that is read, if a page is found under its address. -/
def documentOf (portfolio : Portfolio) (built address : String) (shown : Shown) : Document :=
  { title := shown.title
    sidebar := sidebar portfolio.profile (segmentsOf (pathOf address.toList)) built
    main := shown.main }

/-- Reading a page gives its document. -/
theorem respond_document (portfolio : Portfolio) (built address : String) (cache : Cache) :
    (respond portfolio built "GET" address cache).1.document =
      some (documentOf portfolio built address
        (display portfolio (segmentsOf (pathOf address.toList)) cache).1) := by
  rw [respond_of_not_refused (isRefused_get address), responseTo, if_neg (by decide)]
  rfl

/-- The page of a post that is kept has its title and shows it. -/
theorem display_post (portfolio : Portfolio) (hlookup : respondLookup "GET" address = .post slug)
    {post : Post} (hpost : cache.posts.get? slug = some post) :
    (display portfolio (segmentsOf (pathOf address.toList)) cache).1.title =
        some (titleOf portfolio.profile post.summary.title) ∧
      (display portfolio (segmentsOf (pathOf address.toList)) cache).1.main =
        blogFrame portfolio.profile (postView (.ok post)) := by
  have hdisplay := (not_refused_of_lookup (by rw [hlookup]; exact Lookup.noConfusion)).2
  have hpage := pageOf?_of_post (hdisplay.symm.trans hlookup)
  simp only [display, hpage, Blog.Cache.find_of_kept hpost, postTitle, and_self]

/-- The page of the listing shows the posts of the listing that is kept. -/
theorem display_listing (portfolio : Portfolio) {posts : List Meta}
    (hposts : cache.listings.get? "" = some posts) :
    (display portfolio (segmentsOf (pathOf "/blog".toList)) cache).1.title =
        some (titleOf portfolio.profile "Posts") ∧
      (display portfolio (segmentsOf (pathOf "/blog".toList)) cache).1.main =
        listingMain portfolio.profile (segmentsOf (pathOf "/blog".toList)) posts := by
  have hpage : pageOf? (segmentsOf (pathOf "/blog".toList)) = some .listing := by decide
  simp only [display, hpage, Blog.Cache.list_of_kept hposts, listingMain, and_self]

/-- A title has no angle bracket if neither the name of the owner nor its part has one. -/
theorem not_mem_titleOf {profile : Content.Profile} {part : String}
    (hname : '<' ∉ profile.name.toList) (hpart : '<' ∉ part.toList) :
    '<' ∉ (titleOf profile part).toList := by
  rw [titleOf, String.toList_append, String.toList_append, List.mem_append, List.mem_append]
  rintro ((h | h) | h)
  · exact hname h
  · exact absurd h (by decide)
  · exact hpart h

/-- What is above the article of a post misses an outer mark. -/
theorem misses_aboveArticle (hmark : IsOuter mark) (profile : Content.Profile) (summary : Meta) :
    misses ('<' :: mark) (aboveArticle profile summary) = true := by
  have hheading : Html.allInner ((blogFrame profile []).take 1) = true := by
    simp +decide [blogFrame, Html.div, Html.icon, Html.outside, Html.isInner, Html.allInner]
  have hopen {name : String} (hname : isInnerName name = true)
      {attributes : List (String × String)}
      (h : attributes.all (fun entry => isWord entry.1) = true) :
      misses ('<' :: mark) (openTag name attributes) = true :=
    misses_open hmark hname (List.all_eq_true.mp h)
  exact misses_append (misses_writeAll hmark _ hheading)
    (misses_append (hopen (by decide) (by decide)) (misses_append (hopen (by decide) (by decide))
      (misses_append (misses_writeAll hmark _ (allInner_postHead summary))
        (hopen (by decide) (by decide)))))

/-- What is below the article of a post misses an outer mark. -/
theorem misses_belowArticle (hmark : IsOuter mark) :
    misses ('<' :: mark) belowArticle = true :=
  misses_append (misses_close hmark (by decide))
    (misses_append (misses_close hmark (by decide)) (misses_close hmark (by decide)))

/-- Placeholders are only left out of the article. -/
theorem dropPlaceholders_postMain (profile : Content.Profile) (summary : Meta)
    (article : List Char) :
    dropPlaceholders (aboveArticle profile summary ++ (article ++ belowArticle)) =
      aboveArticle profile summary ++ (dropPlaceholders article ++ belowArticle) := by
  have hbelow : dropPlaceholders belowArticle = belowArticle := by
    have hdrop := dropPlaceholders_append_of_misses (misses_belowArticle isOuter_placeholder) []
    rwa [List.append_nil, dropPlaceholders, List.append_nil] at hdrop
  have hbracket : ∃ rest, belowArticle = '<' :: rest := ⟨_, rfl⟩
  rw [dropPlaceholders_append_of_misses (misses_aboveArticle isOuter_placeholder _ _)]
  obtain ⟨rest, hrest⟩ := hbracket
  rw [hrest] at hbelow ⊢
  rw [dropPlaceholders_append_bracket, hbelow]

/-- The main part of the listing of some posts, as it is read: its elements depend on the numbers of
tags only, its texts are those of the posts in their order, each whole and escaped, and its links
lead to their pages. -/
structure ShowsListing (profile : Content.Profile) (posts : List Meta) (main : List Char) :
    Prop where
  marks_eq : marksOf main = listingMarks (posts.map fun post => post.tags.length)
  texts_eq : textsOf main = (listingTexts profile posts).map shownText
  hrefs_eq : hrefsOf main = listingHrefs profile posts

/-- The page of a post, as it is read: outside the article its elements depend on the number of tags
only and its texts are those of the post, each whole and escaped; the article is the one thing that
is not escaped, and is there once and as it is. All of this is the main part that a reader of the
document finds, if no title has a bracket and the article no end of a main part. -/
structure ShowsPost (profile : Content.Profile) (post : Post) (document : Document) : Prop where
  main_eq : Html.writeAll document.main =
    aboveArticle profile post.summary ++ (post.html.toList ++ belowArticle)
  marks_eq : marksOf (aboveArticle profile post.summary ++ belowArticle) =
    postMarks post.summary.tags.length
  texts_eq : textsOf (aboveArticle profile post.summary ++ belowArticle) =
    (postTexts profile post.summary).map shownText
  mainText?_eq : '<' ∉ post.summary.title.toList →
    misses "</main></div></div></body>".toList post.html.toList = true →
      document.mainText? = some (String.ofList (aboveArticle profile post.summary ++
        (dropPlaceholders post.html.toList ++ belowArticle)))

/-- The listing that is kept is shown by its page. -/
theorem shows_listing (hname : '<' ∉ portfolio.profile.name.toList) (built : String)
    {posts : List Meta} (hposts : cache.listings.get? "" = some posts) :
    ∃ document main, (respond portfolio built "GET" "/blog" cache).1.document = some document ∧
      document.mainText? = some main ∧ ShowsListing portfolio.profile posts main.toList := by
  obtain ⟨htitle, hmain⟩ := display_listing portfolio hposts
  have hinner := allInner_listingMain portfolio.profile (segmentsOf (pathOf "/blog".toList)) posts
  refine ⟨_, _, respond_document portfolio built "/blog" cache, mainText?_eq ?_ ?_ ?_, ?_⟩
  · intro title h
    rw [documentOf, htitle, Option.some.injEq] at h
    exact h ▸ not_mem_titleOf hname (by decide)
  · exact isInner_sidebar _ _ _
  · rw [documentOf, hmain]
    exact mainClosing_misses hinner
  · rw [documentOf, hmain, dropPlaceholders_writeAll hinner, String.toList_ofList]
    exact ⟨marksOf_listingMain _ _ _, textsOf_listingMain _ _ _, hrefsOf_listingMain _ _ _⟩

/-- A post that is kept is shown by its page. -/
theorem shows_post (hname : '<' ∉ portfolio.profile.name.toList) (built : String)
    (hlookup : respondLookup "GET" address = .post slug) {post : Post}
    (hpost : cache.posts.get? slug = some post) :
    ∃ document, (respond portfolio built "GET" address cache).1.document = some document ∧
      ShowsPost portfolio.profile post document := by
  obtain ⟨htitle, hmain⟩ := display_post portfolio hlookup hpost
  have hwritten : Html.writeAll (documentOf portfolio built address
      (display portfolio (segmentsOf (pathOf address.toList)) cache).1).main =
        aboveArticle portfolio.profile post.summary ++ (post.html.toList ++ belowArticle) := by
    rw [documentOf, hmain, writeAll_postMain]
  refine ⟨_, respond_document portfolio built address cache, hwritten, marksOf_outside _ _,
    textsOf_outside _ _, ?_⟩
  intro hbracket harticle
  have habove : misses "</main></div></div></body>".toList
      (aboveArticle portfolio.profile post.summary) = true :=
    misses_aboveArticle isOuter_mainClosing _ _
  have hbelow : misses "</main></div></div></body>".toList belowArticle = true :=
    misses_belowArticle isOuter_mainClosing
  rw [mainText?_eq ?_ (isInner_sidebar _ _ _) ?_, hwritten, dropPlaceholders_postMain]
  · intro title h
    rw [documentOf, htitle, Option.some.injEq] at h
    exact h ▸ not_mem_titleOf hname hbracket
  · rw [hwritten]
    exact misses_append habove (misses_append harticle hbelow)

/-- The main parts of the pages of the blog escape every text but the article, whatever is kept. -/
theorem blog_views_escape {portfolio : Portfolio} (hname : '<' ∉ portfolio.profile.name.toList)
    (built : String) (cache : Cache) :
    (∀ posts, cache.listings.get? "" = some posts →
      ∃ document main, (respond portfolio built "GET" "/blog" cache).1.document = some document ∧
        document.mainText? = some main ∧ ShowsListing portfolio.profile posts main.toList) ∧
    ∀ address slug post, respondLookup "GET" address = .post slug →
      cache.posts.get? slug = some post →
        ∃ document, (respond portfolio built "GET" address cache).1.document = some document ∧
          ShowsPost portfolio.profile post document :=
  ⟨fun _ hposts => shows_listing hname built hposts,
    fun _ _ _ hlookup hpost => shows_post hname built hlookup hpost⟩

/-- The title of the page of a post: it is written as it is, and ends at the first mark that ends a
title. It is read as the title that the page sets exactly if that title needs no escaping. -/
structure ShowsTitle (profile : Content.Profile) (post : Post) (document : Document) : Prop where
  rawTitle?_eq : document.rawTitle? = some (String.ofList (before "</title>".toList
    ((titleOf profile post.summary.title).toList ++ "</title>".toList)))
  of_not_mem : '<' ∉ (titleOf profile post.summary.title).toList →
    document.rawTitle? = some (titleOf profile post.summary.title)
  readable_iff :
    (∃ raw, document.rawTitle? = some raw ∧ '<' ∉ raw.toList ∧
        Text.unescape raw.toList = (titleOf profile post.summary.title).toList) ↔
      '<' ∉ (titleOf profile post.summary.title).toList ∧
        Text.unescape (titleOf profile post.summary.title).toList =
          (titleOf profile post.summary.title).toList

/-- The page of a post that is kept has the title of the post, and does not escape it. -/
theorem post_title_raw (portfolio : Portfolio) (built : String) (cache : Cache)
    {address slug : String} {post : Post} (hlookup : respondLookup "GET" address = .post slug)
    (hpost : cache.posts.get? slug = some post) :
    ∃ document, (respond portfolio built "GET" address cache).1.document = some document ∧
      ShowsTitle portfolio.profile post document := by
  have htitle : (documentOf portfolio built address
      (display portfolio (segmentsOf (pathOf address.toList)) cache).1).title =
        some (titleOf portfolio.profile post.summary.title) :=
    (display_post _ hlookup hpost).1
  exact ⟨_, respond_document portfolio built address cache, Document.rawTitle?_eq htitle,
    Document.rawTitle?_of_not_mem htitle, Document.rawTitle?_readable_iff htitle⟩

/-- A main part in a title takes the place of the main part of its page. -/
theorem mainText?_of_title {document : Document} {title : String} (front forged rest : List Char)
    (htitle : document.title = some title)
    (hparts : title.toList = front ++ ("<main id=\"template-main\">".toList ++
      (forged ++ ("</main></div></div></body>".toList ++ rest))))
    (hfront : misses "<main id=\"template-main\">".toList front = true)
    (hforged : misses "</main></div></div></body>".toList forged = true) :
    document.mainText? = some (String.ofList (dropPlaceholders forged)) := by
  have htext : document.text = (frontText ++ ("<title>".toList ++ front)) ++
      ("<main id=\"template-main\">".toList ++ (forged ++ ("</main></div></div></body>".toList ++
        (rest ++ ("</title>".toList ++
          ("</head>".toList ++ (document.body.write ++ "</html>".toList))))))) := by
    have htitleText : document.titleText =
        "<title>".toList ++ title.toList ++ "</title>".toList := by
      rw [titleText, htitle]
    rw [text_eq, htitleText, hparts]
    simp only [List.append_assoc]
  have hmisses : misses "<main id=\"template-main\">".toList
      (frontText ++ ("<title>".toList ++ front)) = true :=
    misses_append main_misses_frontText (misses_append (by decide) hfront)
  rw [mainText?, htext, between?_eq (by decide) (by decide) hmisses hforged, Option.map_some]

/-- A post with a title, and nothing else but its slug. -/
def titledPost (title : String) : Post := ⟨{ (default : Meta) with slug := "hello", title }, ""⟩

/-- A cache that keeps a post under its slug and lists it. -/
def listedCache (post : Post) : Cache :=
  (Cache.empty.putPost post.summary.slug post).putListing "" [post.summary]

/-- The document of the page of such a post. -/
def titledPage (title : String) : Option Document :=
  (respond .embedded "today" "GET" "/blog/hello" (listedCache (titledPost title))).1.document

/-- That post is kept, and its page looks it up. -/
theorem titledPost_kept (title : String) :
    respondLookup "GET" "/blog/hello" = .post "hello" ∧
      (listedCache (titledPost title)).posts.get? "hello" = some (titledPost title) :=
  ⟨by decide +kernel, Store.Table.get?_put_self _ _ _⟩

/-- A title with a main part in it. -/
def forgedTitle : String :=
  "</title><main id=\"template-main\"><b></b></main></div></div></body>"

/-- The main part of a page is that in the title of its post, if there is one. -/
theorem mainText?_forged :
    (titledPage forgedTitle).bind Document.mainText? = some "<b></b>" := by
  obtain ⟨hlookup, hpost⟩ := titledPost_kept forgedTitle
  have htitle : (documentOf .embedded "today" "/blog/hello" (display .embedded
      (segmentsOf (pathOf "/blog/hello".toList)) (listedCache (titledPost forgedTitle))).1).title =
        some ("Arnab - " ++ forgedTitle) :=
    (display_post _ hlookup hpost).1
  have hmain := mainText?_of_title "Arnab - </title>".toList "<b></b>".toList [] htitle
    (by decide) (by decide) (by decide)
  rw [titledPage, respond_document, Option.bind_some, hmain]
  decide

/-- The main part of the page of a post with another title begins with an element of the page. -/
theorem mainText?_plain :
    ∃ main, (titledPage "Hello").bind Document.mainText? = some main ∧
      marksOf main.toList = postMarks 0 := by
  have hname : '<' ∉ Portfolio.embedded.profile.name.toList := by decide
  obtain ⟨hlookup, hpost⟩ := titledPost_kept "Hello"
  obtain ⟨document, hdocument, hshows⟩ := shows_post hname "today" hlookup hpost
  refine ⟨_, by rw [titledPage, hdocument, Option.bind_some, hshows.mainText?_eq (by decide)
    (by decide)], ?_⟩
  have harticle : dropPlaceholders (titledPost "Hello").html.toList = [] := by decide
  rw [harticle, List.nil_append, String.toList_ofList, hshows.marks_eq]
  rfl

/-- The elements of the main part of a page depend on the title of its post: two posts that differ
in their titles only have pages with different ones. -/
theorem blog_views_forged :
    ∃ forged plain, (titledPage forgedTitle).bind Document.mainText? = some forged ∧
      (titledPage "Hello").bind Document.mainText? = some plain ∧
      marksOf forged.toList ≠ marksOf plain.toList := by
  obtain ⟨plain, hplain, hmarks⟩ := mainText?_plain
  refine ⟨_, plain, mainText?_forged, hplain, ?_⟩
  rw [hmarks]
  decide

/-- What the main parts show of that post where it is kept and listed. -/
theorem blog_views_escape_titled :
    '<' ∉ Portfolio.embedded.profile.name.toList ∧
      (∃ document main,
        (respond .embedded "today" "GET" "/blog" (listedCache (titledPost "Hello"))).1.document =
          some document ∧ document.mainText? = some main ∧
        ShowsListing Portfolio.embedded.profile [(titledPost "Hello").summary] main.toList) ∧
      ∃ document, titledPage "Hello" = some document ∧
        ShowsPost Portfolio.embedded.profile (titledPost "Hello") document := by
  have hname : '<' ∉ Portfolio.embedded.profile.name.toList := by decide
  obtain ⟨hlisting, hposts⟩ :=
    blog_views_escape hname "today" (listedCache (titledPost "Hello"))
  exact ⟨hname, hlisting _ rfl, hposts _ _ _ (titledPost_kept "Hello").1 rfl⟩

/-- A title that is no more than text is shown as it is. -/
theorem post_title_raw_plain :
    respondLookup "GET" "/blog/hello" = .post "hello" ∧
      (listedCache (titledPost "Hello")).posts.get? "hello" = some (titledPost "Hello") ∧
      ∃ document, titledPage "Hello" = some document ∧
        ShowsTitle Portfolio.embedded.profile (titledPost "Hello") document := by
  obtain ⟨hlookup, hpost⟩ := titledPost_kept "Hello"
  exact ⟨hlookup, hpost,
    post_title_raw .embedded "today" (listedCache (titledPost "Hello")) hlookup hpost⟩

/-- The elements of a title are elements of the title of its page. -/
theorem post_title_raw_element :
    (titledPage "<b>x</b>").bind Document.rawTitle? = some "Arnab - <b>x</b>" := by
  obtain ⟨hlookup, hpost⟩ := titledPost_kept "<b>x</b>"
  have htitle : (documentOf .embedded "today" "/blog/hello" (display .embedded
      (segmentsOf (pathOf "/blog/hello".toList)) (listedCache (titledPost "<b>x</b>"))).1).title =
        some "Arnab - <b>x</b>" :=
    (display_post _ hlookup hpost).1
  rw [titledPage, respond_document, Option.bind_some, Document.rawTitle?_eq htitle]
  decide +kernel

end Folio.Site
