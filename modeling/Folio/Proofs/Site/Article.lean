import Folio.Proofs.Blog.Body
import Folio.Proofs.Highlight.CodeBlock
import Folio.Proofs.Markdown.Fence
import Folio.Proofs.Markdown.Prose
import Folio.Proofs.Site.BlogMarkup

/-!
# Articles

What a post shows of its body. Code between fences is shown verbatim: its listing is read as tags
and texts again, and the texts are the code. Of prose every word is shown, once and in order, but
for those in metadata blocks.
-/

namespace Folio.Site

open Folio.Blog (FrontMatter Header Post plainFront plainHeader plainHeader_front renderBody)
open Folio.Highlight (listingClosing listingOpening plainSpan)
open Folio.Markdown (HtmlWriter ProseBlock ProseLine Word fence hasMetadata isCodeLine shownWords)
open Folio.Text (endLines joinLines)

/-- HTML is written as it is. -/
theorem html_html (s : List Char) : Markdown.html [.html s] = s := by
  cases s with
  | nil => rfl
  | cons c s =>
    simp [Markdown.html, HtmlWriter.write, HtmlWriter.event, HtmlWriter.initial, HtmlWriter.append]

/-- A body that is one fenced block is shown as a listing of plain text. -/
theorem renderBody_fenced {code : List (List Char)}
    (hcode : ∀ line ∈ code, isCodeLine line = true) :
    renderBody (joinLines (fence :: (code ++ [fence]))) =
      String.ofList (listingOpening ++ code.flatMap plainSpan ++ listingClosing) := by
  have hfeed : ∀ line ∈ code, '\n' ∉ line := fun line hline =>
    (Markdown.not_mem_of_isCodeLine (hcode line hline)).2.2
  rw [renderBody, Markdown.events_fenced hcode, Highlight.replaceCode_code, html_html,
    Highlight.listingFor_nameless, Highlight.plainListing_endLines hfeed]

/-- The colours of a listing and of plain text. -/
def styleOf (declarations : String) : List (List Char × List Char) :=
  [("style".toList, declarations.toList)]

/-- The tokens of a line of a listing. -/
def spanTokens (line : List Char) : List Token :=
  [.opened "span".toList (styleOf "color:#c0c5ce;"),
    .text (Text.escapeWith Text.quoteEscapes (line ++ ['\n'])), .closed "span".toList]

/-- A line of a listing is read as one span with one text, behind the text that came before. -/
theorem reads_plainSpan (line text : List Char) :
    Reads (.content text) (plainSpan line) (.content []) (textToken text ++ spanTokens line) := by
  have hopening : "<span style=\"color:#c0c5ce;\">".toList =
      openTag "span" [("style", "color:#c0c5ce;")] := by decide
  have hclosing : "</span>".toList = closeTag "span" := by decide
  have hattributes : writtenAttributes [("style", "color:#c0c5ce;")] =
      styleOf "color:#c0c5ce;" := by decide
  have hne : Text.escapeWith Text.quoteEscapes (line ++ ['\n']) ≠ [] := by
    intro hnil
    have hread := Text.readable_quoteEscapes.unescape_escapeWith (line ++ ['\n'])
    rw [hnil] at hread
    exact List.concat_ne_nil '\n' line (List.concat_eq_append ▸ hread.symm)
  have hname : isWord "span" = true := by decide
  have hkeys : ∀ entry ∈ [("style", "color:#c0c5ce;")], isWord entry.1 = true := by decide
  have hopen := reads_open hname hkeys text
  have hcontent := reads_content
    (Text.not_mem_escapeWith_quoteEscapes (line ++ ['\n'])) []
  have hclose := reads_close hname (Text.escapeWith Text.quoteEscapes (line ++ ['\n']))
  have hall := hopen.append (hcontent.append hclose)
  rw [hattributes] at hall
  delta plainSpan
  rw [hopening, hclosing, List.append_assoc]
  simpa [spanTokens, textToken, hne] using hall

/-- Lines of a listing are read as one span each. -/
theorem reads_plainSpans (code : List (List Char)) (text : List Char) :
    ∃ last made, Reads (.content text) (code.flatMap plainSpan) (.content last) made ∧
      made ++ textToken last = textToken text ++ code.flatMap spanTokens := by
  induction code generalizing text with
  | nil => exact ⟨text, [], .refl _, by simp⟩
  | cons line code ih =>
    obtain ⟨last, made, hrest, hmade⟩ := ih []
    refine ⟨last, _, (reads_plainSpan line text).append hrest, ?_⟩
    rw [List.append_assoc, hmade, List.flatMap_cons, List.append_assoc]
    rfl

/-- The lines of a listing are spans with one text each. -/
theorem tokens_plainSpans (code : List (List Char)) :
    tokens (code.flatMap plainSpan) = code.flatMap spanTokens := by
  obtain ⟨last, made, hreads, hmade⟩ := reads_plainSpans code []
  rw [tokens_of_reads hreads, hmade]
  rfl

/-- A listing is one element that holds the spans of its lines, behind a line feed. -/
theorem tokens_listing (code : List (List Char)) :
    tokens (listingOpening ++ code.flatMap plainSpan ++ listingClosing) =
      .opened "pre".toList (styleOf "background-color:#2b303b;") :: .text ['\n'] ::
        (code.flatMap spanTokens ++ [.closed "pre".toList, .text ['\n']]) := by
  have hopening : listingOpening =
      openTag "pre" [("style", "background-color:#2b303b;")] ++ ['\n'] := by decide
  have hclosing : listingClosing = closeTag "pre" ++ ['\n'] := by decide
  have hattributes : writtenAttributes [("style", "background-color:#2b303b;")] =
      styleOf "background-color:#2b303b;" := by decide
  have hname : isWord "pre" = true := by decide
  have hkeys : ∀ entry ∈ [("style", "background-color:#2b303b;")], isWord entry.1 = true := by
    decide
  have hfeed : Reads (.content []) ['\n'] (.content ['\n']) [] := rfl
  have hopen := (reads_open hname hkeys []).append hfeed
  obtain ⟨last, made, hcode, hmade⟩ := reads_plainSpans code ['\n']
  have hclose := (reads_close hname last).append hfeed
  have hall := (hopen.append hcode).append hclose
  have hmiddle (rest : List Token) : made ++ (textToken last ++ rest) =
      .text ['\n'] :: (code.flatMap spanTokens ++ rest) := by
    rw [← List.append_assoc, hmade]
    rfl
  rw [hopening, hclosing, tokens_of_reads hall, hattributes]
  simp only [List.append_assoc, List.append_nil, List.cons_append, hmiddle]
  rfl

/-- The spans of a listing show the lines of the code, each with its line feed. -/
theorem textsOf_plainSpans (code : List (List Char)) :
    textsOf (code.flatMap plainSpan) = code.map fun line => String.ofList (line ++ ['\n']) := by
  rw [textsOf, tokens_plainSpans]
  induction code with
  | nil => rfl
  | cons line code ih =>
    have hline : (spanTokens line).filterMap Token.text? = [String.ofList (line ++ ['\n'])] := by
      rw [← Text.readable_quoteEscapes.unescape_escapeWith (line ++ ['\n'])]
      rfl
    rw [List.flatMap_cons, List.filterMap_append, ih, hline, List.map_cons, List.singleton_append]

/-- Code is shown verbatim. A post whose body is one fenced block without a name is a listing with
one span for each line, whatever the lines are. Its only tags are those of the listing and of the
spans, and what the spans show is the code; the line feeds behind the listing's own tags are not
part of it. -/
theorem code_shown_verbatim (slug : String) {header : Header} {front : FrontMatter}
    (hfront : header.front? = some front) (hdraft : front.draft = false)
    {code : List (List Char)} (hcode : ∀ line ∈ code, isCodeLine line = true) {body : String}
    (hbody : Text.lines body.toList = fence :: (code ++ [fence])) :
    Post.read slug (header.source body) =
        .ok ⟨front.summary slug,
          String.ofList (listingOpening ++ code.flatMap plainSpan ++ listingClosing)⟩ ∧
      tokens (listingOpening ++ code.flatMap plainSpan ++ listingClosing) =
        .opened "pre".toList (styleOf "background-color:#2b303b;") :: .text ['\n'] ::
          (code.flatMap spanTokens ++ [.closed "pre".toList, .text ['\n']]) ∧
      (textsOf (code.flatMap plainSpan)).flatMap String.toList = endLines code := by
  refine ⟨?_, tokens_listing code, ?_⟩
  · rw [Post.read_of_published (Header.read?_source_of_some hfront body) hdraft, hbody,
      renderBody_fenced hcode]
  · rw [textsOf_plainSpans, List.flatMap_map, endLines]
    simp only [String.toList_ofList]

/-- Lines of code that would be a rule, a heading, an item, markup, a formula or nothing. -/
def strangeCode : List (List Char) :=
  ["---", "# Title", "- item", "<b title='x'>&amp;</b>", "$x$ [a](b)", ""].map String.toList

/-- A body with that code between two fences. -/
def strangeBody : String :=
  "```\n---\n# Title\n- item\n<b title='x'>&amp;</b>\n$x$ [a](b)\n\n```\n"

/-- Such lines are shown as they are. -/
theorem code_shown_verbatim_strange :
    (plainHeader.front? = some plainFront ∧ plainFront.draft = false ∧
      (∀ line ∈ strangeCode, isCodeLine line = true) ∧
      Text.lines strangeBody.toList = fence :: (strangeCode ++ [fence])) ∧
    Post.read "code" (plainHeader.source strangeBody) =
      .ok ⟨plainFront.summary "code",
        String.ofList (listingOpening ++ strangeCode.flatMap plainSpan ++ listingClosing)⟩ ∧
    tokens (listingOpening ++ strangeCode.flatMap plainSpan ++ listingClosing) =
      .opened "pre".toList (styleOf "background-color:#2b303b;") :: .text ['\n'] ::
        (strangeCode.flatMap spanTokens ++ [.closed "pre".toList, .text ['\n']]) ∧
    (textsOf (strangeCode.flatMap plainSpan)).flatMap String.toList = endLines strangeCode := by
  have hcode : ∀ line ∈ strangeCode, isCodeLine line = true := by decide
  have hbody : Text.lines strangeBody.toList = fence :: (strangeCode ++ [fence]) := by decide
  exact ⟨⟨plainHeader_front, rfl, hcode, hbody⟩,
    code_shown_verbatim "code" plainHeader_front rfl hcode hbody⟩

/-- The text that tokens show. -/
def visibleText (made : List Token) : List Char :=
  (made.filterMap Token.text?).flatMap String.toList

/-- The words that markup shows outside of its tags. -/
def wordsOf (s : List Char) : List (List Char) :=
  Text.CodePoints.words (visibleText (tokens s)) []

/-- Tokens in a row show their texts in a row. -/
theorem visibleText_append (made more : List Token) :
    visibleText (made ++ more) = visibleText made ++ visibleText more := by
  rw [visibleText, List.filterMap_append, List.flatMap_append]
  rfl

/-- A text without references is shown as it is. -/
theorem visibleText_textToken {text : List Char} (h : '&' ∉ text) :
    visibleText (textToken text) = text := by
  cases text with
  | nil => rfl
  | cons c text =>
    have hread := Text.unescape_of_not_mem h
    simp [visibleText, textToken, Token.text?, hread]

/-- The tokens of a block of prose. -/
def partTokens : ProseBlock → List Token
  | .paragraph lines =>
    .opened "p".toList [] ::
      (textToken (ProseBlock.paragraph lines).text ++ [.closed "p".toList])
  | .heading lines =>
    .opened "h2".toList [] ::
      (textToken (ProseBlock.heading lines).text ++ [.closed "h2".toList])
  | .rule => [.opened "hr".toList [("/".toList, [])]]

/-- A text in an element on a line of its own is read as its tokens. -/
theorem reads_element {name : String} (hname : isWord name = true) {s : List Char} (hs : '<' ∉ s)
    (text : List Char) :
    Reads (.content text) (openTag name [] ++ s ++ (closeTag name ++ ['\n'])) (.content ['\n'])
      (textToken text ++ .opened name.toList [] :: (textToken s ++ [.closed name.toList])) := by
  have hopen := reads_open hname (List.forall_mem_nil _) text
  have hinside := reads_content hs []
  have hfeed : Reads (.content []) ['\n'] (.content ['\n']) [] := rfl
  have hall := (hopen.append hinside).append ((reads_close hname ([] ++ s)).append hfeed)
  simpa [writtenAttributes] using hall

/-- A block of prose is read as its tokens, behind the text that came before. -/
theorem reads_part (part : ProseBlock) (text : List Char) :
    Reads (.content text) part.html (.content ['\n']) (textToken text ++ partTokens part) := by
  have hmark : '<' ∉ part.text := part.not_mem_text (by decide) (by decide)
  cases part with
  | paragraph lines =>
    have hname : isWord "p" = true := by decide
    exact reads_element hname hmark text
  | heading lines =>
    have hname : isWord "h2" = true := by decide
    exact reads_element hname hmark text
  | rule =>
    have hbracket := Reads.single (.content text) '<'
    rw [Reading.step, if_pos rfl] at hbracket
    have hrest : Reads (.name []) "hr />\n".toList (.content ['\n'])
        [.opened "hr".toList [("/".toList, [])]] := rfl
    exact hbracket.append hrest

/-- The tokens of a block of prose show its text. -/
theorem visibleText_partTokens (part : ProseBlock) :
    visibleText (partTokens part) = part.text := by
  have hmark : '&' ∉ part.text := part.not_mem_text (by decide) (by decide)
  have helement (name : List Char) :
      visibleText (.opened name [] :: (textToken part.text ++ [.closed name])) = part.text := by
    rw [← List.singleton_append, visibleText_append, visibleText_append,
      visibleText_textToken hmark]
    exact List.append_nil _
  cases part with
  | paragraph lines => exact helement _
  | heading lines => exact helement _
  | rule => rfl

/-- Blocks of prose are read behind a text, and show it and their own texts. -/
theorem reads_parts (parts : List ProseBlock) {text : List Char} (h : '&' ∉ text) :
    ∃ last made, Reads (.content text) (parts.flatMap ProseBlock.html) (.content last) made ∧
      visibleText (made ++ textToken last) =
        text ++ parts.flatMap fun part => part.text ++ ['\n'] := by
  induction parts generalizing text with
  | nil =>
    refine ⟨text, [], .refl _, ?_⟩
    rw [List.nil_append, visibleText_textToken h, List.flatMap_nil, List.append_nil]
  | cons part parts ih =>
    obtain ⟨last, made, hrest, hmade⟩ := @ih ['\n'] (by decide)
    refine ⟨last, _, (reads_part part text).append hrest, ?_⟩
    rw [List.append_assoc, visibleText_append, hmade, visibleText_append, visibleText_textToken h,
      visibleText_partTokens, List.flatMap_cons, List.append_assoc, List.append_assoc]

/-- The words of blocks of prose are shown. -/
theorem wordsOf_parts (parts : List ProseBlock) :
    wordsOf (parts.flatMap ProseBlock.html) =
      (parts.flatMap ProseBlock.lines).flatMap Markdown.WordLine.words := by
  obtain ⟨last, made, hreads, hmade⟩ := reads_parts parts List.not_mem_nil
  rw [wordsOf, tokens_of_reads hreads, hmade, List.nil_append, Markdown.words_parts]

/-- No block of prose is code. -/
theorem not_isCodeMark_of_mem_part (part : ProseBlock) :
    ∀ event ∈ part.events, Highlight.isCodeMark event = false := by
  have hlines (texts : List (List Char)) :
      ∀ event ∈ Markdown.lineEvents texts, Highlight.isCodeMark event = false := by
    induction texts with
    | nil => exact List.forall_mem_nil _
    | cons s texts ih =>
      cases texts with
      | nil => exact List.forall_mem_singleton.mpr rfl
      | cons next texts =>
        exact List.forall_mem_cons.mpr ⟨rfl, List.forall_mem_cons.mpr ⟨rfl, ih⟩⟩
  cases part with
  | paragraph lines | heading lines =>
    refine List.forall_mem_append.mpr ⟨List.forall_mem_cons.mpr ⟨rfl, hlines _⟩, ?_⟩
    exact List.forall_mem_singleton.mpr rfl
  | rule => exact List.forall_mem_singleton.mpr rfl

/-- The body of a post of prose is shown with the words that are not in a metadata block. -/
theorem exists_html_prose (prose : List ProseLine) :
    ∃ html, renderBody (joinLines (prose.map ProseLine.text)) = String.ofList html ∧
      wordsOf html = shownWords prose := by
  obtain ⟨parts, hevents, hlines⟩ := Markdown.exists_events_prose prose
  have hmarks : ∀ event ∈ parts.flatMap ProseBlock.events, Highlight.isCodeMark event = false := by
    intro event hevent
    obtain ⟨part, -, hpart⟩ := List.mem_flatMap.mp hevent
    exact not_isCodeMark_of_mem_part part event hpart
  refine ⟨parts.flatMap ProseBlock.html, ?_, ?_⟩
  · rw [renderBody, hevents, Highlight.replaceCode_of_no_marks _ hmarks, Markdown.html_prose]
  · rw [wordsOf_parts, hlines, shownWords]

/-- A post of prose is read, and its words are shown. -/
theorem exists_read_prose (slug : String) {header : Header} {front : FrontMatter}
    (hfront : header.front? = some front) (hdraft : front.draft = false)
    {prose : List ProseLine} {body : String}
    (hbody : Text.lines body.toList = prose.map ProseLine.text) :
    ∃ html, Post.read slug (header.source body) =
        .ok ⟨front.summary slug, String.ofList html⟩ ∧
      wordsOf html = shownWords prose := by
  obtain ⟨html, hrender, hwords⟩ := exists_html_prose prose
  refine ⟨html, ?_, hwords⟩
  rw [Post.read_of_published (Header.read?_source_of_some hfront body) hdraft, hbody, hrender]

/-- A post of prose shows the words of its lines, each once and in order, but for those in metadata
blocks. Without such a block it shows all words. -/
theorem prose_words_shown (slug : String) {header : Header} {front : FrontMatter}
    (hfront : header.front? = some front) (hdraft : front.draft = false)
    {prose : List ProseLine} {body : String}
    (hbody : Text.lines body.toList = prose.map ProseLine.text) :
    ∃ html, Post.read slug (header.source body) =
        .ok ⟨front.summary slug, String.ofList html⟩ ∧
      wordsOf html = shownWords prose ∧
      (shownWords prose).Sublist (prose.flatMap ProseLine.allWords) ∧
      (hasMetadata false prose = false →
        wordsOf html = prose.flatMap ProseLine.allWords) := by
  obtain ⟨html, hread, hwords⟩ := exists_read_prose slug hfront hdraft hbody
  refine ⟨html, hread, hwords, Markdown.shownLines_sublist .fresh prose, fun hnone => ?_⟩
  rw [hwords, Markdown.shownWords_of_not_hasMetadata hnone]

/-- A line with one word. -/
def oneWord (word : Word) : ProseLine := .words ⟨word, []⟩

/-- Two headings, a rule and a paragraph. -/
def headedProse : List ProseLine :=
  [.words ⟨{ letters := "some".toList }, [{ letters := "words".toList }]⟩, .hyphens,
    oneWord { letters := "more".toList }, .hyphens, .blank [] (List.forall_mem_nil _), .hyphens,
    oneWord { letters := "text".toList }]

/-- A body with these lines. -/
def headedBody : String := "some words\n---\nmore\n---\n\n---\ntext\n"

/-- All its words are shown. -/
theorem prose_words_shown_headed :
    (plainHeader.front? = some plainFront ∧ plainFront.draft = false ∧
      Text.lines headedBody.toList = headedProse.map ProseLine.text) ∧
    ∃ html, Post.read "headed" (plainHeader.source headedBody) =
        .ok ⟨plainFront.summary "headed", String.ofList html⟩ ∧
      wordsOf html = ["some", "words", "more", "text"].map String.toList := by
  have hbody : Text.lines headedBody.toList = headedProse.map ProseLine.text := by decide
  obtain ⟨html, hread, -, -, hall⟩ := prose_words_shown "headed" plainHeader_front rfl hbody
  exact ⟨⟨plainHeader_front, rfl, hbody⟩, html, hread, hall (by decide)⟩

/-- Words between two lines of hyphens. -/
def hiddenProse : List ProseLine :=
  [.hyphens, .words ⟨{ letters := "hello".toList }, [{ letters := "world".toList }]⟩, .hyphens]

/-- A body with these lines. -/
def hiddenBody : String := "---\nhello world\n---\n"

/-- These words are a metadata block, so they are not shown. -/
theorem metadata_words_hidden :
    (plainHeader.front? = some plainFront ∧ plainFront.draft = false ∧
      Text.lines hiddenBody.toList = hiddenProse.map ProseLine.text) ∧
    ¬ ∃ post, Post.read "hidden" (plainHeader.source hiddenBody) = .ok post ∧
      (hiddenProse.flatMap ProseLine.allWords).Sublist (wordsOf post.html.toList) := by
  have hbody : Text.lines hiddenBody.toList = hiddenProse.map ProseLine.text := by decide
  refine ⟨⟨plainHeader_front, rfl, hbody⟩, ?_⟩
  rintro ⟨post, hpost, hwords⟩
  obtain ⟨html, hread, hshown⟩ := exists_read_prose "hidden" plainHeader_front rfl hbody
  rw [hread] at hpost
  cases hpost
  rw [String.toList_ofList, hshown] at hwords
  revert hwords
  decide

end Folio.Site
