import Folio.Proofs.Blog.Agreement
import Folio.Proofs.Site.Growth
import Folio.Proofs.Site.Route
import Folio.Site.Server

/-!
# The status of pages

Whether there is a page is settled by the path as it is written, and which page is shown by its
segments; the status follows from both, and from whether the post that is shown is there. On paths
without a backslash the two agree, so the status never promises a page that is not shown. Files
never stand in the way of a page: no page lies in a folder that is served, and a file of the site is
only looked for where there is no page.
-/

namespace Folio.Site

open Folio.Blog (Archive.listing Archive.post Archive.slugs Cache Fault Meta Post)

variable {portfolio : Portfolio} {cache : Cache} {segments : List (List Char)}

/-- Only the page of a post that is not there says that a post does not exist. -/
theorem display_missing {fault : Fault}
    (h : (display portfolio segments cache).1.main =
      blogFrame portfolio.profile (postView (.error fault))) :
    (display portfolio segments cache).1.missing = true := by
  have hframe {children others : List Html}
      (h : blogFrame portfolio.profile children = blogFrame portfolio.profile others) :
      children = others := by
    simpa [blogFrame, Html.div] using h
  cases hpage : pageOf? segments with
  | none => simp [display, hpage, blogFrame] at h
  | some page =>
    cases page with
    | home =>
      simp only [display, hpage] at h
      exact absurd (congrArg List.length h) (by simp [Portfolio.view, Section.all, blogFrame])
    | listing =>
      simp only [display, hpage] at h
      simpa [listingView, searchForm, postView] using hframe h
    | post slug =>
      simp only [display, hpage] at h ⊢
      cases hfind : (cache.find slug).1 with
      | ok post =>
        rw [hfind] at h
        simpa [postView, postBody] using hframe h
      | error reason => rw [Blog.Cache.find_fault hfind, isMissing]

/-- Only where segments lead to no page it is said that there is none. -/
theorem pageOf?_eq_none_of_display
    (h : (display portfolio segments cache).1.main = [.text "Page not found."]) :
    pageOf? segments = none := by
  cases hpage : pageOf? segments with
  | none => rfl
  | some page =>
    have hlength := congrArg List.length h
    cases page <;>
      simp [display, hpage, blogFrame, Portfolio.view, Section.all] at hlength

/-- A path lies in the folder of a listed post: it is the address of the folder, or goes on behind
it with a slash. From the folder on it is `rest`. -/
structure LiesIn (files : FileServices) (path : List Char) (slug : String) (rest : List Char) :
    Prop where
  listed : ∃ posts, Archive.listing "" = .ok posts ∧ slug ∈ posts.map Meta.slug
  folder : files.isFolder slug = true
  path_eq : path = (folderAddress slug).toList ∧ rest = ['/'] ∨
    path = (folderAddress slug).toList ++ rest ∧ rest.head? = some '/'

/-- A path is left to a file service: it lies in the folder of a listed post, or there is a file of
the site under it. -/
def FileServices.Serves (files : FileServices) (path : List Char) : Prop :=
  (∃ slug rest, LiesIn files path slug rest) ∨ (files.atRoot path).status = 200

/-- What the status of an answer tells. A path in the folder of a listed post is answered from that
folder, and one under which there is a file of the site with that file, unless it is that of a page;
neither touches what is kept. Where there is no page, and no file service to answer, the status is
that of a missing page; a page can only be read, and everything else is refused without an effect;
reading a page is a success unless the page is that of a post that is not there. So no success says
that a post does not exist, and on a path without a backslash none says that there is no page. -/
structure StatusTells (files : FileServices) (portfolio : Portfolio)
    (built method address : String) (cache : Cache) : Prop where
  of_folder : ∀ slug rest, LiesIn files (pathOf address.toList) slug rest →
    serve files portfolio built method address cache =
      (.file (files.inFolder slug method rest), cache)
  of_file : ¬ IsPage (pathOf address.toList) →
    (∀ slug rest, ¬ LiesIn files (pathOf address.toList) slug rest) →
    (files.atRoot (pathOf address.toList)).status = 200 →
      serve files portfolio built method address cache =
        (.file (files.atRoot (pathOf address.toList)), cache)
  of_no_page : ¬ IsPage (pathOf address.toList) → ¬ files.Serves (pathOf address.toList) →
    (serve files portfolio built method address cache).1.status = 404
  of_refused : IsPage (pathOf address.toList) → method ≠ "GET" → method ≠ "HEAD" →
    serve files portfolio built method address cache =
      (.page { status := 405, document := none, resources := [] }, cache)
  of_read : IsPage (pathOf address.toList) → method = "GET" ∨ method = "HEAD" →
    (serve files portfolio built method address cache).1.status = 404 ∧
        (∃ slug, pageOf? (segmentsOf (pathOf address.toList)) = some (.post slug) ∧
          (cache.find slug).1 = .error (.notFound slug)) ∨
      (serve files portfolio built method address cache).1.status = 200 ∧
        ∀ slug, pageOf? (segmentsOf (pathOf address.toList)) = some (.post slug) →
          ∃ post, (cache.find slug).1 = .ok post
  says_missing_post : ∀ document fault,
    (serve files portfolio built method address cache).1.document = some document →
    document.main = blogFrame portfolio.profile (postView (.error fault)) →
      (serve files portfolio built method address cache).1.status = 404
  says_no_page : '\\' ∉ pathOf address.toList → ∀ document,
    (serve files portfolio built method address cache).1.document = some document →
    document.main = [.text "Page not found."] →
      (serve files portfolio built method address cache).1.status = 404

/-- A request is refused if there is a page and it does not read it. -/
theorem isRefused_iff {method address : String} :
    isRefused method address = true ↔
      IsPage (pathOf address.toList) ∧ method ≠ "GET" ∧ method ≠ "HEAD" := by
  rw [isRefused, Bool.and_eq_true, isPagePath_iff]
  simp

/-- The status of an answer that is not a refusal. -/
theorem respond_status {method address : String} (h : isRefused method address = false)
    (portfolio : Portfolio) (built : String) (cache : Cache) :
    (respond portfolio built method address cache).1.status =
      if isPagePath (pathOf address.toList) &&
        !(display portfolio (segmentsOf (pathOf address.toList)) cache).1.missing then 200
      else 404 := by
  rw [respond_of_not_refused h, responseTo]
  split <;> rfl

/-- The page of segments is missing if it is that of a post that is not there. -/
theorem display_missing_iff :
    (display portfolio segments cache).1.missing = true ↔
      ∃ slug, pageOf? segments = some (.post slug) ∧
        (cache.find slug).1 = .error (.notFound slug) := by
  cases hpage : pageOf? segments with
  | none => simp [display, hpage]
  | some page =>
    cases page with
    | home | listing => simp [display, hpage]
    | post slug =>
      simp only [display, hpage, Option.some.injEq, Page.post.injEq, exists_eq_left']
      cases hfind : (cache.find slug).1 with
      | ok post => simp [isMissing]
      | error fault => simp [isMissing, Blog.Cache.find_fault hfind]

/-- The main part of an answer with a document is that of the page of its segments. -/
theorem respond_main {built method address : String} {document : Document}
    (h : (respond portfolio built method address cache).1.document = some document) :
    isRefused method address = false ∧
      document.main =
        (display portfolio (segmentsOf (pathOf address.toList)) cache).1.main := by
  cases hrefused : isRefused method address with
  | true =>
    rw [respond_of_refused hrefused] at h
    cases h
  | false =>
    rw [respond_of_not_refused hrefused] at h
    exact ⟨rfl, responseTo_main h⟩

section

variable {built method address : String}

/-- Where there is no page the status is that of a missing one. -/
theorem status_of_no_page (hpage : ¬ IsPage (pathOf address.toList)) :
    (respond portfolio built method address cache).1.status = 404 := by
  have hpath : isPagePath (pathOf address.toList) = false :=
    Bool.eq_false_iff.mpr fun h => hpage (isPagePath_iff.mp h)
  have hrefused : isRefused method address = false :=
    Bool.eq_false_iff.mpr fun h => hpage (isRefused_iff.mp h).1
  rw [respond_status hrefused, hpath]
  rfl

/-- Reading a page is a success unless it is that of a post that is not there. -/
theorem status_of_read (hpage : IsPage (pathOf address.toList))
    (hread : method = "GET" ∨ method = "HEAD") :
    (respond portfolio built method address cache).1.status =
      if (display portfolio (segmentsOf (pathOf address.toList)) cache).1.missing then 404
      else 200 := by
  have hrefused : isRefused method address = false :=
    Bool.eq_false_iff.mpr fun h => by
      obtain ⟨-, hget, hhead⟩ := isRefused_iff.mp h
      exact hread.elim hget hhead
  rw [respond_status hrefused, isPagePath_iff.mpr hpage]
  cases (display portfolio (segmentsOf (pathOf address.toList)) cache).1.missing <;> rfl

/-- The post of a page that is not missing is there. -/
theorem find_ok_of_not_missing {slug : String}
    (hmissing : (display portfolio segments cache).1.missing = false)
    (hslug : pageOf? segments = some (.post slug)) : ∃ post, (cache.find slug).1 = .ok post := by
  cases hfind : (cache.find slug).1 with
  | ok post => exact ⟨post, rfl⟩
  | error fault =>
    obtain rfl := Blog.Cache.find_fault hfind
    rw [display_missing_iff.mpr ⟨slug, hslug, hfind⟩] at hmissing
    cases hmissing

/-- An answer that says that a post does not exist is no success. -/
theorem status_of_missing_post {document : Document} {fault : Fault}
    (hdocument : (respond portfolio built method address cache).1.document = some document)
    (hmain : document.main = blogFrame portfolio.profile (postView (.error fault))) :
    (respond portfolio built method address cache).1.status = 404 := by
  obtain ⟨hrefused, hshown⟩ := respond_main hdocument
  rw [respond_status hrefused, display_missing (hshown.symm.trans hmain), Bool.not_true,
    Bool.and_false]
  rfl

/-- An answer that says that there is no page is no success on a path without a backslash. -/
theorem status_of_no_page_shown (hbackslash : '\\' ∉ pathOf address.toList) {document : Document}
    (hdocument : (respond portfolio built method address cache).1.document = some document)
    (hmain : document.main = [.text "Page not found."]) :
    (respond portfolio built method address cache).1.status = 404 := by
  obtain ⟨-, hshown⟩ := respond_main hdocument
  have hnone := pageOf?_eq_none_of_display (hshown.symm.trans hmain)
  refine status_of_no_page fun hpage => ?_
  obtain ⟨page, hsome⟩ := pageOf?_of_isPage hpage hbackslash
  rw [hsome] at hnone
  cases hnone

end

section

variable {files : FileServices} {path rest : List Char} {slug : String}

/-- The path from a folder on. -/
theorem fromFolder?_eq_some_iff :
    fromFolder? slug path = some rest ↔
      path = (folderAddress slug).toList ∧ rest = ['/'] ∨
        path = (folderAddress slug).toList ++ rest ∧ rest.head? = some '/' := by
  rw [fromFolder?]
  constructor
  · intro h
    cases hdrop : Text.dropStart? (folderAddress slug).toList path with
    | none =>
      rw [hdrop] at h
      cases h
    | some below =>
      rw [hdrop] at h
      obtain rfl := Text.dropStart?_eq_some_iff.mp hdrop
      cases below with
      | nil => exact Or.inl ⟨List.append_nil _, (Option.some.inj h).symm⟩
      | cons c below =>
        have hsome : (if c = '/' then some (c :: below) else none) = some rest := h
        obtain ⟨hc, hrest⟩ := Option.ite_none_right_eq_some.mp hsome
        obtain rfl := Option.some.inj hrest
        exact Or.inr ⟨rfl, congrArg some hc⟩
  · rintro (⟨rfl, rfl⟩ | ⟨rfl, hhead⟩)
    · have hdrop := Text.dropStart?_append (folderAddress slug).toList []
      rw [List.append_nil] at hdrop
      rw [hdrop]
    · rw [Text.dropStart?_append]
      cases rest with
      | nil => cases hhead
      | cons c rest => simpa using hhead

/-- Only a slash leads on from a folder. -/
example : fromFolder? "a" "/posts/a/b".toList = some "/b".toList ∧
    fromFolder? "a" "/posts/a".toList = some ['/'] ∧ fromFolder? "a" "/posts/ab".toList = none := by
  decide

/-- The folders that are served are those of the listed posts that have one. -/
theorem mem_attachments_iff :
    slug ∈ files.attachments ↔
      (∃ posts, Archive.listing "" = .ok posts ∧ slug ∈ posts.map Meta.slug) ∧
        files.isFolder slug = true := by
  obtain ⟨posts, hlisting, -⟩ := Blog.Archive.listing_all
  have hlist : (Cache.empty.list "").1 = .ok posts :=
    ((Cache.Faithful.empty.list "").1).trans hlisting
  have hattachments : files.attachments = (posts.map Meta.slug).filter files.isFolder := by
    rw [FileServices.attachments, hlist]
    rfl
  rw [hattachments, List.mem_filter, hlisting]
  simp only [Except.ok.injEq, exists_eq_left']

/-- A listed post has a slug without a slash. -/
theorem not_mem_slug_of_listed {posts : List Meta} (hlisting : Archive.listing "" = .ok posts)
    (hlisted : slug ∈ posts.map Meta.slug) : '/' ∉ slug.toList := by
  obtain ⟨summary, hsummary, rfl⟩ := List.mem_map.mp hlisted
  obtain ⟨found, hfound, hentries⟩ := Blog.Archive.listing_all
  obtain rfl : posts = found := Except.ok.inj (hlisting.symm.trans hfound)
  obtain ⟨slug, post, hpost, rfl⟩ := (hentries summary).mp hsummary
  rw [Blog.Archive.slug_of_post hpost]
  rcases Blog.Archive.post_cases slug with ⟨hslug, -⟩ | hmissing
  · exact (Blog.Archive.mem_slugs_iff.mp hslug).2
  · rw [hmissing] at hpost
    cases hpost

/-- What stands behind the address of the folder of one of the site's posts lies in that folder. -/
theorem liesIn_of_mem_slugs (hslug : slug ∈ Archive.slugs) (hfolder : files.isFolder slug = true)
    (below : List Char) :
    LiesIn files ((folderAddress slug).toList ++ '/' :: below) slug ('/' :: below) := by
  obtain ⟨text, front, body, hraw, hfront⟩ := Blog.Archive.front_of_mem_slugs hslug
  have hdraft : front.draft = false := by
    obtain ⟨other, hother⟩ := Blog.Archive.front_of_raw hraw
    cases hfront.symm.trans hother
    rfl
  have hpost : Archive.post slug = .ok _ :=
    (Blog.Archive.post_of_raw hraw).trans (Post.read_of_published hfront hdraft)
  obtain ⟨posts, hlisting, hentries⟩ := Blog.Archive.listing_all
  have hlisted := List.mem_map_of_mem (f := Meta.slug) ((hentries _).mpr ⟨slug, _, hpost, rfl⟩)
  exact ⟨⟨posts, hlisting, Blog.Archive.slug_of_post hpost ▸ hlisted⟩, hfolder, Or.inr ⟨rfl, rfl⟩⟩

/-- The overview of constrained decoding is one of them. -/
example : "constrained_decoding_overview" ∈ Archive.slugs := by decide +kernel

/-- A path in the folder of a post is the address of the folder, with nothing or a slash behind. -/
theorem LiesIn.exists_behind (h : LiesIn files path slug rest) :
    ∃ behind, path = "/posts/".toList ++ (slug.toList ++ behind) ∧
      behind.takeWhile (· ≠ '/') = [] := by
  have haddress : (folderAddress slug).toList = "/posts/".toList ++ slug.toList :=
    String.toList_append ..
  rcases h.path_eq with ⟨hpath, -⟩ | ⟨hpath, hhead⟩
  · exact ⟨[], by rw [hpath, haddress, List.append_nil], rfl⟩
  · refine ⟨rest, by rw [hpath, haddress, List.append_assoc], ?_⟩
    cases rest with
    | nil => rfl
    | cons c rest =>
      obtain rfl : c = '/' := Option.some.inj hhead
      rfl

/-- The slug of a folder that a path lies in is what stands in front of the next slash. -/
theorem LiesIn.takeWhile_eq (h : LiesIn files path slug rest) :
    (path.drop "/posts/".toList.length).takeWhile (· ≠ '/') = slug.toList := by
  obtain ⟨posts, hlisting, hlisted⟩ := h.listed
  have hslash := not_mem_slug_of_listed hlisting hlisted
  obtain ⟨behind, rfl, hbehind⟩ := h.exists_behind
  have hslug : ∀ c ∈ slug.toList, decide (c ≠ '/') = true := fun c hc =>
    decide_eq_true (ne_of_mem_of_not_mem hc hslash)
  rw [List.drop_left, List.takeWhile_append_of_pos hslug, hbehind, List.append_nil]

/-- A path lies in one folder at most. -/
theorem LiesIn.unique (h : LiesIn files path slug rest) {other : String} {below : List Char}
    (hother : LiesIn files path other below) : other = slug ∧ below = rest := by
  obtain rfl : other = slug :=
    String.toList_inj.mp (hother.takeWhile_eq.symm.trans h.takeWhile_eq)
  have hrest := fromFolder?_eq_some_iff.mpr h.path_eq
  rw [fromFolder?_eq_some_iff.mpr hother.path_eq] at hrest
  exact ⟨rfl, Option.some.inj hrest⟩

/-- The folder that is found for a path is the one that it lies in. -/
theorem folderAt?_eq_some_iff :
    files.folderAt? path = some (slug, rest) ↔ LiesIn files path slug rest := by
  have hsound {slug : String} {rest : List Char}
      (h : files.folderAt? path = some (slug, rest)) : LiesIn files path slug rest := by
    obtain ⟨found, hfound, hpath⟩ := List.exists_of_findSome?_eq_some h
    obtain ⟨below, hbelow, hpair⟩ := Option.map_eq_some_iff.mp hpath
    cases hpair
    obtain ⟨hlisted, hfolder⟩ := mem_attachments_iff.mp hfound
    exact ⟨hlisted, hfolder, fromFolder?_eq_some_iff.mp hbelow⟩
  refine ⟨hsound, fun h => ?_⟩
  cases hfolder : files.folderAt? path with
  | none =>
    have hnone := List.findSome?_eq_none_iff.mp hfolder slug
      (mem_attachments_iff.mpr ⟨h.listed, h.folder⟩)
    rw [fromFolder?_eq_some_iff.mpr h.path_eq] at hnone
    cases hnone
  | some found =>
    obtain ⟨hslug, hrest⟩ := h.unique (hsound hfolder)
    rw [← hslug, ← hrest]

/-- No folder is found for a path that lies in none. -/
theorem folderAt?_eq_none (h : ∀ slug rest, ¬ LiesIn files path slug rest) :
    files.folderAt? path = none :=
  Option.eq_none_iff_forall_ne_some.mpr fun found hfound =>
    h found.1 found.2 (folderAt?_eq_some_iff.mp hfound)

/-- No page lies in a folder that is served. -/
theorem LiesIn.not_isPage (h : LiesIn files path slug rest) : ¬ IsPage path := by
  obtain ⟨behind, rfl, -⟩ := h.exists_behind
  intro hpage
  generalize hpath : "/posts/".toList ++ (slug.toList ++ behind) = path at hpage
  cases hpage with
  | home => simp at hpath
  | listing => simp at hpath
  | post => simp at hpath

end

section

variable {files : FileServices} {built method address : String}

/-- A page is answered with that page, whatever files there are. -/
theorem serve_of_page (hpage : IsPage (pathOf address.toList)) :
    serve files portfolio built method address cache =
      servePage portfolio built method address cache := by
  rw [serve, if_pos (isPagePath_iff.mpr hpage)]

/-- A path in the folder of a post is answered from that folder. -/
theorem serve_of_folder {slug : String} {rest : List Char}
    (h : LiesIn files (pathOf address.toList) slug rest) :
    serve files portfolio built method address cache =
      (.file (files.inFolder slug method rest), cache) := by
  rw [serve, if_neg fun hpath => h.not_isPage (isPagePath_iff.mp hpath)]
  simp only [folderAt?_eq_some_iff.mpr h]

/-- What is neither a page nor in a folder is looked for among the files of the site. -/
theorem serve_of_no_page (hpage : ¬ IsPage (pathOf address.toList))
    (hfolder : ∀ slug rest, ¬ LiesIn files (pathOf address.toList) slug rest) :
    serve files portfolio built method address cache =
      if (files.atRoot (pathOf address.toList)).status = 200 then
        (.file (files.atRoot (pathOf address.toList)), cache)
      else servePage portfolio built method address cache := by
  rw [serve, if_neg fun hpath => hpage (isPagePath_iff.mp hpath)]
  simp only [folderAt?_eq_none hfolder]

/-- An answer with a document is that of a page. -/
theorem serve_of_document {document : Document}
    (h : (serve files portfolio built method address cache).1.document = some document) :
    serve files portfolio built method address cache =
      servePage portfolio built method address cache := by
  by_cases hpage : IsPage (pathOf address.toList)
  · exact serve_of_page hpage
  by_cases hfolder : ∃ slug rest, LiesIn files (pathOf address.toList) slug rest
  · obtain ⟨slug, rest, hfolder⟩ := hfolder
    rw [serve_of_folder hfolder] at h
    cases h
  · simp only [not_exists] at hfolder
    rw [serve_of_no_page hpage hfolder] at h ⊢
    split at h
    · cases h
    · next hfile => rw [if_neg hfile]

end

/-- The status of every answer tells what is shown. -/
theorem page_status (files : FileServices) (portfolio : Portfolio)
    (built method address : String) (cache : Cache) :
    StatusTells files portfolio built method address cache where
  of_folder _ _ hfolder := serve_of_folder hfolder
  of_file hpage hfolder hfile := by rw [serve_of_no_page hpage hfolder, if_pos hfile]
  of_no_page hpage hserves := by
    obtain ⟨hfolder, hfile⟩ := not_or.mp hserves
    simp only [not_exists] at hfolder
    rw [serve_of_no_page hpage hfolder, if_neg hfile]
    exact status_of_no_page hpage
  of_refused hpage hget hhead := by
    rw [serve_of_page hpage, servePage,
      respond_of_refused (isRefused_iff.mpr ⟨hpage, hget, hhead⟩) portfolio built cache]
  of_read hpage hread := by
    have hstatus : (serve files portfolio built method address cache).1.status = _ :=
      (congrArg (·.1.status) (serve_of_page hpage)).trans (status_of_read hpage hread)
    rw [hstatus]
    cases hmissing :
        (display portfolio (segmentsOf (pathOf address.toList)) cache).1.missing with
    | true => exact Or.inl ⟨rfl, display_missing_iff.mp hmissing⟩
    | false => exact Or.inr ⟨rfl, fun _ => find_ok_of_not_missing hmissing⟩
  says_missing_post _ _ hdocument hmain := by
    have hserve := serve_of_document hdocument
    rw [hserve] at hdocument ⊢
    exact status_of_missing_post hdocument hmain
  says_no_page hbackslash _ hdocument hmain := by
    have hserve := serve_of_document hdocument
    rw [hserve] at hdocument ⊢
    exact status_of_no_page_shown hbackslash hdocument hmain

/-- A backslash makes the two routers disagree: there is a page under the path, but its segments
lead to none, so a success says that there is no page. -/
theorem page_status_backslash :
    (serve .empty .embedded "today" "GET" "/blog/\\x" .empty).1.status = 200 ∧
      (serve .empty .embedded "today" "GET" "/blog/\\x" .empty).1.document.map Document.main =
        some [.text "Page not found."] :=
  ⟨by decide +kernel, rfl⟩

end Folio.Site
