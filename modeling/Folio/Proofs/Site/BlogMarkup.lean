import Folio.Proofs.Site.Document
import Folio.Proofs.Site.Route
import Folio.Site.BlogView

/-!
# The pages of the blog as they are read

What is written for the listing and for the page of a post is read as three sequences: the marks of
its elements, the texts that it shows, and the addresses to which it links. The marks do not depend
on any text; the texts and addresses are those of the posts, one after the other. The article of a
post is markup of its own, so its page is taken apart into what is above the article and what is
below, and these are read together.
-/

namespace Folio.Site

open Folio.Blog (Meta Post)

/-- The beginning or the end of an element. -/
inductive Mark where
  | opened (name : List Char)
  | closed (name : List Char)
  deriving Repr, DecidableEq

namespace Token

/-- The beginning or the end that a token is. -/
def mark? : Token → Option Mark
  | .opened name _ => some (.opened name)
  | .closed name => some (.closed name)
  | .text _ => none

/-- The text that a token stands for. -/
def text? : Token → Option String
  | .text content => some (String.ofList (Text.unescape content))
  | _ => none

/-- The addresses to which a token links. -/
def hrefs : Token → List String
  | .opened _ attributes => attributes.filterMap fun (key, value) =>
    if key = "href".toList then some (String.ofList (Text.unescape value)) else none
  | _ => []

end Token

/-- The beginnings and ends of elements in markup. -/
def marksOf (s : List Char) : List Mark := (tokens s).filterMap Token.mark?

/-- The texts that markup shows. -/
def textsOf (s : List Char) : List String := (tokens s).filterMap Token.text?

/-- The addresses to which markup links. -/
def hrefsOf (s : List Char) : List String := (tokens s).flatMap Token.hrefs

section

variable (name content : List Char) (attributes : List (List Char × List Char))

@[simp] theorem mark?_opened : (Token.opened name attributes).mark? = some (.opened name) := rfl

@[simp] theorem mark?_closed : (Token.closed name).mark? = some (.closed name) := rfl

@[simp] theorem mark?_text : (Token.text content).mark? = none := rfl

@[simp] theorem text?_opened : (Token.opened name attributes).text? = none := rfl

@[simp] theorem text?_closed : (Token.closed name).text? = none := rfl

@[simp] theorem hrefs_closed : (Token.closed name).hrefs = [] := rfl

@[simp] theorem hrefs_text : (Token.text content).hrefs = [] := rfl

end

/-- A text as it is shown: an empty one is a space. -/
def shownText (s : String) : String := if s.isEmpty then " " else s

/-- A text between tags is shown as it is. -/
@[simp] theorem text?_writeText (s : String) :
    (Token.text (Html.writeText s)).text? = some (shownText s) := by
  rw [Token.text?, Html.writeText, shownText]
  split
  · rfl
  · rw [Text.readable_textEscapes.unescape_escapeWith, String.ofList_toList]

/-- The marks of an element around other marks. -/
def Mark.around (name : String) (inner : List Mark) : List Mark :=
  .opened name.toList :: (inner ++ [.closed name.toList])

/-- The marks of tags in a row. -/
def tagMarks (count : Nat) : List Mark := (List.replicate count (Mark.around "span" [])).flatten

section

variable (style : String) (tags : List String)

/-- Tags in a row have marks that depend on their number only. -/
theorem filterMap_mark?_tags :
    (Html.tokensAll (tags.map (.span style))).filterMap Token.mark? = tagMarks tags.length := by
  rw [tokensAll_map]
  induction tags with
  | nil => rfl
  | cons tag tags ih =>
    rw [List.flatMap_cons, List.filterMap_append, ih, List.length_cons, tagMarks, tagMarks,
      List.replicate_succ, List.flatten_cons]
    rfl

/-- Tags in a row show their texts. -/
theorem filterMap_text?_tags :
    (Html.tokensAll (tags.map (.span style))).filterMap Token.text? = tags.map shownText := by
  rw [tokensAll_map]
  induction tags with
  | nil => rfl
  | cons tag tags ih =>
    rw [List.flatMap_cons, List.filterMap_append, ih, List.map_cons]
    simp [Html.span, Html.tokens, Html.tokensAll, List.filterMap_cons]

/-- Tags in a row are inner parts. -/
theorem allInner_tags : Html.allInner (tags.map (.span style)) = true :=
  allInner_map (fun tag => by simp +decide [Html.span, Html.isInner, Html.allInner]) tags

/-- Tags in a row are no texts that follow one another. -/
theorem allSpaced_tags : Html.allSpaced (tags.map (.span style)) = true :=
  allSpaced_map (fun _ => rfl) (fun _ => rfl) tags

/-- Tags in a row link to nothing. -/
theorem flatMap_hrefs_tags :
    (Html.tokensAll (tags.map (.span style))).flatMap Token.hrefs = [] := by
  rw [tokensAll_map]
  induction tags with
  | nil => rfl
  | cons tag tags ih =>
    rw [List.flatMap_cons, List.flatMap_append, ih]
    simp [Html.span, Html.tokens, Html.tokensAll, Token.hrefs, writtenAttributes]

end

/-- The marks of an entry of the listing with a number of tags. -/
def entryMarks (tags : Nat) : List Mark :=
  Mark.around "div" (Mark.around "a"
    (Mark.around "div" (Mark.around "span" [] ++ Mark.around "span" []) ++ Mark.around "div" [] ++
      Mark.around "div" (tagMarks tags)))

/-- The texts of an entry of the listing. -/
def entryTexts (post : Meta) : List String :=
  [dateText post, " ", post.title, post.description] ++ post.tags

section

variable (segments : List (List Char)) (post : Meta)

/-- The marks of an entry depend on the number of its tags only. -/
theorem filterMap_mark?_entryLink :
    (entryLink segments post).tokens.filterMap Token.mark? = entryMarks post.tags.length := by
  simp [entryLink, Html.div, Html.span, Html.tokens, Html.tokensAll, List.filterMap_cons,
    List.filterMap_append, entryMarks, Mark.around, filterMap_mark?_tags]

/-- An entry shows its texts. -/
theorem filterMap_text?_entryLink :
    (entryLink segments post).tokens.filterMap Token.text? = (entryTexts post).map shownText := by
  simp [entryLink, Html.div, Html.span, Html.tokens, Html.tokensAll, List.filterMap_cons,
    List.filterMap_append, entryTexts, filterMap_text?_tags]

/-- The addresses to which a tag with some attributes links. -/
theorem hrefs_opened (name : List Char) (attributes : List (String × String)) :
    (Token.opened name (writtenAttributes attributes)).hrefs =
      attributes.filterMap fun entry => if entry.1 = "href" then some entry.2 else none := by
  rw [Token.hrefs, writtenAttributes, List.filterMap_map]
  congr 1
  funext entry
  simp [Text.readable_attributeEscapes.unescape_escapeWith, String.toList_inj,
    -String.reduceToList]

/-- An entry links to the page of its post. -/
theorem flatMap_hrefs_entryLink :
    (entryLink segments post).tokens.flatMap Token.hrefs = [linkAddress post.slug] := by
  have hmark : (currentMark segments (linkAddress post.slug)).filterMap
      (fun entry => if entry.1 = "href" then some entry.2 else none) = [] := by
    rw [currentMark]
    split <;> simp
  rw [linkAddress] at hmark ⊢
  simp [entryLink, Html.div, Html.span, Html.tokens, Html.tokensAll, hrefs_opened,
    flatMap_hrefs_tags, List.filterMap_append, hmark]

end

/-- The marks of the heading of all pages of the blog. -/
def headingMarks : List Mark :=
  Mark.around "div"
    (Mark.around "h1" (Mark.around "a" [] ++ Mark.around "a" (Mark.around "i" [])) ++
      Mark.around "div" (Mark.around "a" []))

/-- The marks of the form in which a pattern is entered. -/
def formMarks : List Mark :=
  Mark.around "form"
    (Mark.around "label" [] ++ .opened "input".toList :: Mark.around "button" [])

/-- The texts of the heading of all pages of the blog. -/
def headingTexts (profile : Content.Profile) : List String :=
  [profile.name ++ "'s Blog", "Older writing lives on ", "the WordPress blog", "."]

/-- The addresses to which the heading links. -/
def headingHrefs (profile : Content.Profile) : List String :=
  ["/blog", "/rss.xml", profile.legacyBlog]

section

variable (profile : Content.Profile) (children : List Html)

/-- The marks of a page of the blog. -/
theorem filterMap_mark?_blogFrame :
    (Html.tokensAll (blogFrame profile children)).filterMap Token.mark? =
      headingMarks ++ Mark.around "div" ((Html.tokensAll children).filterMap Token.mark?) := by
  simp [blogFrame, Html.div, Html.icon, Html.tokens, Html.tokensAll, List.filterMap_cons,
    List.filterMap_append, headingMarks, Mark.around]

/-- The texts of a page of the blog. -/
theorem filterMap_text?_blogFrame :
    (Html.tokensAll (blogFrame profile children)).filterMap Token.text? =
      (headingTexts profile).map shownText ++
        (Html.tokensAll children).filterMap Token.text? := by
  simp [blogFrame, Html.div, Html.icon, Html.tokens, Html.tokensAll, List.filterMap_cons,
    List.filterMap_append, headingTexts]

/-- The addresses to which a page of the blog links. -/
theorem flatMap_hrefs_blogFrame :
    (Html.tokensAll (blogFrame profile children)).flatMap Token.hrefs =
      headingHrefs profile ++ (Html.tokensAll children).flatMap Token.hrefs := by
  simp [blogFrame, Html.div, Html.icon, Html.outside, Html.tokens, Html.tokensAll, hrefs_opened,
    List.flatMap_cons, headingHrefs]

/-- A page of the blog has inner parts if what is below its heading are such. -/
theorem allInner_blogFrame (h : Html.allInner children = true) :
    Html.allInner (blogFrame profile children) = true := by
  simp +decide [blogFrame, Html.div, Html.icon, Html.outside, Html.isInner, Html.allInner, h]

/-- No texts follow one another in a page of the blog if none do below its heading. -/
theorem allSpaced_blogFrame (h : Html.allSpaced children = true) :
    Html.allSpaced (blogFrame profile children) = true := by
  simp +decide [blogFrame, Html.div, Html.icon, Html.isSpaced, Html.allSpaced, Html.isText,
    startsText, h]

end

/-- The marks of the listing of posts with some numbers of tags. -/
def listingMarks (tags : List Nat) : List Mark :=
  headingMarks ++ Mark.around "div"
    (formMarks ++ Mark.around "p" [] ++ Mark.around "div" (tags.flatMap entryMarks))

/-- The texts of the listing of some posts. -/
def listingTexts (profile : Content.Profile) (posts : List Meta) : List String :=
  headingTexts profile ++ ["Search (regex):", "Search", countText posts.length] ++
    posts.flatMap entryTexts

/-- The addresses to which the listing of some posts links. -/
def listingHrefs (profile : Content.Profile) (posts : List Meta) : List String :=
  headingHrefs profile ++ posts.map fun post => linkAddress post.slug

/-- The main part of the listing of some posts. -/
def listingMain (profile : Content.Profile) (segments : List (List Char)) (posts : List Meta) :
    List Html := blogFrame profile (listingView segments (.ok posts))

section

variable (profile : Content.Profile) (segments : List (List Char)) (posts : List Meta)

/-- An entry of the listing is an inner part. -/
theorem isInner_entryLink (post : Meta) : (entryLink segments post).isInner = true := by
  have hmark := all_isWord_currentMark segments ("/blog/" ++ post.slug)
  simp +decide [entryLink, Html.div, Html.span, Html.isInner, Html.allInner, hmark, allInner_tags]

/-- No texts follow one another in an entry. -/
theorem isSpaced_entryLink (post : Meta) : (entryLink segments post).isSpaced = true := by
  simp [entryLink, Html.div, Html.span, Html.isSpaced, Html.allSpaced, Html.isText, startsText,
    allSpaced_tags]

/-- The listing has inner parts. -/
theorem allInner_listingMain : Html.allInner (listingMain profile segments posts) = true := by
  refine allInner_blogFrame profile _ ?_
  have hentries := allInner_map (isInner_entryLink segments) posts
  simp +decide [listingView, searchForm, Html.div, Html.paragraph, Html.isInner, Html.allInner,
    hentries]

/-- No texts follow one another in the listing. -/
theorem allSpaced_listingMain : Html.allSpaced (listingMain profile segments posts) = true := by
  refine allSpaced_blogFrame profile _ ?_
  have hentries := allSpaced_map (isSpaced_entryLink segments) (fun post => rfl) posts
  simp [listingView, searchForm, Html.div, Html.paragraph, Html.isSpaced, Html.allSpaced,
    Html.isText, startsText, hentries]

/-- The tokens of the listing. -/
theorem tokens_listingMain :
    tokens (Html.writeAll (listingMain profile segments posts)) =
      Html.tokensAll (listingMain profile segments posts) :=
  tokens_writeAll (allInner_listingMain _ _ _) (allSpaced_listingMain _ _ _)

/-- The marks of the listing depend on the numbers of tags only. -/
theorem marksOf_listingMain :
    marksOf (Html.writeAll (listingMain profile segments posts)) =
      listingMarks (posts.map fun post => post.tags.length) := by
  rw [marksOf, tokens_listingMain, listingMain, filterMap_mark?_blogFrame, listingMarks]
  simp [listingView, searchForm, Html.div, Html.paragraph, Html.tokens, Html.tokensAll,
    List.filterMap_cons, List.filterMap_append, tokensAll_map, List.filterMap_flatMap,
    filterMap_mark?_entryLink, formMarks, Mark.around, List.flatMap_map]

/-- The listing shows its texts. -/
theorem textsOf_listingMain :
    textsOf (Html.writeAll (listingMain profile segments posts)) =
      (listingTexts profile posts).map shownText := by
  rw [textsOf, tokens_listingMain, listingMain, filterMap_text?_blogFrame, listingTexts]
  simp [listingView, searchForm, Html.div, Html.paragraph, Html.tokens, Html.tokensAll,
    List.filterMap_cons, List.filterMap_append, tokensAll_map, List.filterMap_flatMap,
    filterMap_text?_entryLink, List.map_flatMap]

/-- The listing links to the pages of its posts, in their order. -/
theorem hrefsOf_listingMain :
    hrefsOf (Html.writeAll (listingMain profile segments posts)) =
      listingHrefs profile posts := by
  rw [hrefsOf, tokens_listingMain, listingMain, flatMap_hrefs_blogFrame, listingHrefs]
  have hentries : (Html.tokensAll (posts.map (entryLink segments))).flatMap Token.hrefs =
      posts.map fun post => linkAddress post.slug := by
    rw [tokensAll_map, List.flatMap_assoc]
    simp only [flatMap_hrefs_entryLink, List.map_eq_flatMap]
  simp [listingView, searchForm, Html.div, Html.paragraph, Html.tokens, Html.tokensAll,
    hrefs_opened, List.flatMap_cons, hentries]

end

/-- What a post says of itself above its article. -/
def postHead (summary : Meta) : List Html := (postBody ⟨summary, ""⟩).take 2

/-- The style of an article. -/
def articleStyle : List (String × String) := [("class", "prose prose-invert max-w-none")]

/-- The page of a post with nothing in its article. -/
def emptyPostMain (profile : Content.Profile) (summary : Meta) : List Html :=
  blogFrame profile
    [.element "div" [("id", "blog_content")]
      (postHead summary ++ [.element "article" articleStyle []])]

/-- What is written above the article of a post, up to the tag that opens it. -/
def aboveArticle (profile : Content.Profile) (summary : Meta) : List Char :=
  Html.writeAll ((blogFrame profile []).take 1) ++
    (openTag "div" [("class", "w-full max-w-4xl mx-auto px-8 text-left")] ++
      (openTag "div" [("id", "blog_content")] ++
        (Html.writeAll (postHead summary) ++ openTag "article" articleStyle)))

/-- What is written below the article of a post, from the tag that closes it. -/
def belowArticle : List Char := closeTag "article" ++ (closeTag "div" ++ closeTag "div")

/-- The marks of the page of a post with a number of tags. -/
def postMarks (tags : Nat) : List Mark :=
  headingMarks ++ Mark.around "div" (Mark.around "div"
    (Mark.around "h2" [] ++
      Mark.around "div" (Mark.around "div"
        (Mark.around "span" [] ++ Mark.around "span" [] ++ Mark.around "div" (tagMarks tags))) ++
      Mark.around "article" []))

/-- The texts of the page of a post outside its article. -/
def postTexts (profile : Content.Profile) (summary : Meta) : List String :=
  headingTexts profile ++ [summary.title, summary.author, dateText summary] ++ summary.tags

section

variable (profile : Content.Profile) (summary : Meta)

/-- Markup is written as it is. -/
theorem write_markup (content : String) : (Html.markup content).write = content.toList := by
  rw [Html.write]

/-- The page of a post is its article between what is above and what is below. -/
theorem writeAll_postMain (post : Post) :
    Html.writeAll (blogFrame profile (postView (.ok post))) =
      aboveArticle profile post.summary ++ (post.html.toList ++ belowArticle) := by
  simp only [blogFrame, postView, postBody, postHead, aboveArticle, belowArticle, articleStyle,
    Html.div, write_element, write_markup, Html.writeAll, List.take_succ_cons, List.take_zero,
    List.append_nil, List.append_assoc]

/-- What is above and below the article is the page with nothing in the article. -/
theorem above_append_below :
    aboveArticle profile summary ++ belowArticle =
      Html.writeAll (emptyPostMain profile summary) := by
  simp only [blogFrame, postBody, postHead, aboveArticle, belowArticle, emptyPostMain,
    Html.div, write_element, Html.writeAll, List.take_succ_cons, List.take_zero,
    List.append_nil, List.append_assoc, List.nil_append, List.cons_append]

/-- What a post says of itself above its article are inner parts. -/
theorem allInner_postHead : Html.allInner (postHead summary) = true := by
  simp +decide [postHead, postBody, Html.div, Html.span, Html.isInner, Html.allInner,
    allInner_tags]

/-- What is outside the article are inner parts. -/
theorem allInner_emptyPostMain : Html.allInner (emptyPostMain profile summary) = true := by
  refine allInner_blogFrame profile _ ?_
  simp +decide [articleStyle, Html.isInner, Html.allInner, allInner_append, allInner_postHead]

/-- No texts follow one another outside the article. -/
theorem allSpaced_emptyPostMain : Html.allSpaced (emptyPostMain profile summary) = true := by
  refine allSpaced_blogFrame profile _ ?_
  simp [postHead, postBody, Html.div, Html.span, Html.isSpaced, Html.allSpaced, Html.isText,
    startsText, allSpaced_tags]

/-- The tokens outside the article. -/
theorem tokens_outside :
    tokens (aboveArticle profile summary ++ belowArticle) =
      Html.tokensAll (emptyPostMain profile summary) := by
  rw [above_append_below]
  exact tokens_writeAll (allInner_emptyPostMain _ _) (allSpaced_emptyPostMain _ _)

/-- The marks outside the article depend on the number of tags only. -/
theorem marksOf_outside :
    marksOf (aboveArticle profile summary ++ belowArticle) = postMarks summary.tags.length := by
  rw [marksOf, tokens_outside, emptyPostMain, filterMap_mark?_blogFrame, postMarks]
  simp [postHead, postBody, Html.div, Html.span, Html.tokens, Html.tokensAll,
    List.filterMap_cons, List.filterMap_append, filterMap_mark?_tags, Mark.around]

/-- A post shows its title, its author, its date and its tags outside its article. -/
theorem textsOf_outside :
    textsOf (aboveArticle profile summary ++ belowArticle) =
      (postTexts profile summary).map shownText := by
  rw [textsOf, tokens_outside, emptyPostMain, filterMap_text?_blogFrame, postTexts]
  simp [postHead, postBody, Html.div, Html.span, Html.tokens, Html.tokensAll,
    List.filterMap_cons, List.filterMap_append, filterMap_text?_tags]

end

end Folio.Site
