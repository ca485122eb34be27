import Folio.Proofs.Site.Escaping

/-!
# The links of the listing

The listing links to its posts by their slugs as they are. A slug that can be the name of a file is
found again by its link exactly if it means nothing but itself in an address; one that holds the
mark of a query or a fragment, a backslash or an escape leads elsewhere.
-/

namespace Folio.Site

open Folio.Blog (Cache Meta Post)

variable {portfolio : Portfolio} {address slug : String} {cache : Cache}

/-- Reading an address looks up a post if its segments lead to that post. -/
theorem respondLookup_get_iff :
    respondLookup "GET" address = .post slug ↔
      pageOf? (segmentsOf (pathOf address.toList)) = some (.post slug) := by
  have hdisplay : respondLookup "GET" address =
      displayLookup (segmentsOf (pathOf address.toList)) := by
    rw [respondLookup, isRefused_get, if_neg Bool.false_ne_true]
  rw [hdisplay]
  exact ⟨pageOf?_of_post, fun h => by rw [displayLookup, h]⟩

/-- There is a page under the link to a plain slug. -/
theorem isPagePath_linkAddress (hfile : IsFileName slug) (hplain : IsPlainSlug slug) :
    isPagePath (pathOf (linkAddress slug).toList) = true := by
  have hne : slug.toList ≠ [] := fun hnil => hfile.ne_empty (String.toList_eq_nil_iff.mp hnil)
  rw [pathOf_linkAddress, pathOf_eq_self_iff.mpr ⟨hplain.no_query, hplain.no_fragment⟩]
  exact isPagePath_iff.mpr (.post hne hfile.no_slash)

/-- Where the link of an entry of the listing leads. It is in the page of the listing, and can be
requested as it is exactly if that holds of every character of the slug; of other links clients make
addresses of their own, by encoding or dropping what may not be there. Read as it is, the link looks
up the post of the entry exactly if the slug is plain, and then the answer is a success with the
page of that post. -/
structure LinkLeads (portfolio : Portfolio) (built : String) (cache : Cache) (post : Post) :
    Prop where
  linked : ∃ document main,
    (respond portfolio built "GET" "/blog" cache).1.document = some document ∧
      document.mainText? = some main ∧ linkAddress post.summary.slug ∈ hrefsOf main.toList
  is_uri_iff : IsUri (linkAddress post.summary.slug) ↔
    ∀ c ∈ post.summary.slug.toList, isUriChar c = true
  looked_up_iff : respondLookup "GET" (linkAddress post.summary.slug) =
    .post post.summary.slug ↔ IsPlainSlug post.summary.slug
  shown : IsPlainSlug post.summary.slug →
    (respond portfolio built "GET" (linkAddress post.summary.slug) cache).1.status = 200 ∧
      (respond portfolio built "GET" (linkAddress post.summary.slug) cache).1.HandsOver
        (.ok post) ∧
      (respond portfolio built "GET" (linkAddress post.summary.slug) cache).2 = cache ∧
      ∃ document, (respond portfolio built "GET" (linkAddress post.summary.slug) cache).1.document =
          some document ∧
        document.main = blogFrame portfolio.profile (postView (.ok post))

/-- The links of the listing lead to the posts that are kept under slugs that mean nothing but
themselves in an address. -/
theorem listed_links_lead {portfolio : Portfolio} (hname : '<' ∉ portfolio.profile.name.toList)
    (built : String) {cache : Cache} {posts : List Meta} {post : Post}
    (hfile : IsFileName post.summary.slug)
    (hpost : cache.posts.get? post.summary.slug = some post)
    (hposts : cache.listings.get? "" = some posts) (hlisted : post.summary ∈ posts) :
    LinkLeads portfolio built cache post := by
  have hfind := Blog.Cache.find_of_kept hpost
  refine ⟨?_, isUri_linkAddress_iff, respondLookup_get_iff.trans (pageOf?_linkAddress_iff hfile),
    fun hplain => ?_⟩
  · obtain ⟨document, main, hdocument, hmain, hshows⟩ := shows_listing hname built hposts
    refine ⟨document, main, hdocument, hmain, ?_⟩
    rw [hshows.hrefs_eq, listingHrefs, List.mem_append]
    exact Or.inr (List.mem_map_of_mem hlisted)
  · have hpage := (pageOf?_linkAddress_iff hfile).mpr hplain
    have hgives : PageGives portfolio built (linkAddress post.summary.slug) _ cache :=
      pageGives_of_pageOf? (isPagePath_linkAddress hfile hplain) hpage
    obtain ⟨-, hmain⟩ := display_post portfolio (respondLookup_get_iff.mpr hpage) hpost
    refine ⟨?_, ?_, ?_, _, respond_document portfolio built _ cache, hmain⟩
    · rw [hgives.status_eq, hfind]
      rfl
    · have hhands := hgives.handsOver
      rwa [hfind] at hhands
    · rw [hgives.cache_eq, hfind]

/-- The link to a post whose slug is a plain word. -/
theorem listed_links_lead_hello :
    '<' ∉ Portfolio.embedded.profile.name.toList ∧
      IsFileName (titledPost "Hello").summary.slug ∧
      (listedCache (titledPost "Hello")).posts.get? "hello" = some (titledPost "Hello") ∧
      LinkLeads .embedded "today" (listedCache (titledPost "Hello")) (titledPost "Hello") := by
  have hname : '<' ∉ Portfolio.embedded.profile.name.toList := by decide
  have hfile : IsFileName (titledPost "Hello").summary.slug :=
    ⟨⟨by decide, by decide, by decide⟩, by decide⟩
  have hpost : (listedCache (titledPost "Hello")).posts.get? "hello" = some (titledPost "Hello") :=
    rfl
  exact ⟨hname, hfile, hpost,
    listed_links_lead hname "today" hfile hpost rfl List.mem_cons_self⟩

/-- A post whose slug has the mark of a query. -/
def queryPost : Post := ⟨{ (default : Meta) with slug := "a?b" }, ""⟩

/-- The mark of a query in a slug makes the link of its entry lead to a post that is not there. -/
theorem listed_links_lead_query :
    IsFileName queryPost.summary.slug ∧
      (listedCache queryPost).posts.get? queryPost.summary.slug = some queryPost ∧
      (∃ document main,
        (respond .embedded "today" "GET" "/blog" (listedCache queryPost)).1.document =
            some document ∧
          document.mainText? = some main ∧ "/blog/a?b" ∈ hrefsOf main.toList) ∧
      (respond .embedded "today" "GET" "/blog/a?b" (listedCache queryPost)).1.status = 404 := by
  have hname : '<' ∉ Portfolio.embedded.profile.name.toList := by decide
  have hposts : (listedCache queryPost).listings.get? "" = some [queryPost.summary] := rfl
  obtain ⟨document, main, hdocument, hmain, hshows⟩ := shows_listing hname "today" hposts
  have hlink : linkAddress "a?b" ∈ hrefsOf main.toList := by
    rw [hshows.hrefs_eq, listingHrefs, List.mem_append]
    exact Or.inr List.mem_cons_self
  have hpage : PageGives .embedded "today" "/blog/a?b" "a" (listedCache queryPost) :=
    pageGives_of_pageOf? (by decide) (by decide +kernel)
  refine ⟨⟨⟨by decide, by decide, by decide⟩, by decide⟩, rfl,
    ⟨document, main, hdocument, hmain, hlink⟩, ?_⟩
  rw [hpage.status_eq]
  decide +kernel

end Folio.Site
