import Folio.Proofs.Site.Markup
import Folio.Site.Document
import Folio.Site.Sidebar

/-!
# Finding parts of a document

A part of a document stands between two marks. A text in which no place can be the beginning of a
mark, whatever stands behind the text, is passed over on the way to it; such texts can be joined.
All marks begin with an angle bracket, so a text without one is passed over by every search.
-/

namespace Folio.Site

/-- The mark of a link has a word as its key. -/
theorem all_isWord_currentMark (segments : List (List Char)) (href : String) :
    (currentMark segments href).all (fun entry => isWord entry.1) = true := by
  rw [currentMark]
  split <;> decide

/-- The sidebar has no tag of a main part. -/
theorem isInner_sidebar (profile : Content.Profile) (segments : List (List Char))
    (built : String) : (sidebar profile segments built).isInner = true := by
  have hitem (s : Section) : s.menuItem.isInner = true := by cases s <;> decide
  have hlink (href label glyph : String) : (iconLink href label glyph).isInner = true := by
    simp +decide [iconLink, Html.outside, Html.icon, Html.isInner, Html.allInner]
  have hmark := all_isWord_currentMark segments "/blog"
  simp +decide [sidebar, Html.div, Html.isInner, Html.allInner, allInner_append,
    allInner_map hitem, hlink, hmark]

namespace Document

/-- Whether a text differs from a mark before either of them ends. -/
def differs : List Char → List Char → Bool
  | p :: mark, c :: s => p ≠ c || differs mark s
  | _, _ => false

/-- Whether no place in a text can be the beginning of a mark, whatever stands behind the text. -/
def misses (mark : List Char) : List Char → Bool
  | [] => true
  | c :: s => differs mark (c :: s) && misses mark s

variable {mark s t : List Char}

/-- A text that differs from a mark still does with more behind it. -/
theorem differs_append (h : differs mark s = true) (t : List Char) :
    differs mark (s ++ t) = true := by
  induction mark generalizing s with
  | nil => cases s <;> cases h
  | cons p mark ih =>
    cases s with
    | nil => cases h
    | cons c s =>
      simp only [differs, List.cons_append, Bool.or_eq_true] at h ⊢
      exact h.imp_right fun h => ih h

/-- A mark is not at the beginning of a text that differs from it. -/
theorem dropStart?_of_differs (h : differs mark s = true) : Text.dropStart? mark s = none := by
  induction mark generalizing s with
  | nil => cases s <;> cases h
  | cons p mark ih =>
    cases s with
    | nil => rfl
    | cons c s =>
      rw [Text.dropStart?]
      split
      · next hpc => exact ih (by simpa [differs, hpc] using h)
      · rfl

/-- Texts that miss a mark miss it one behind the other. -/
theorem misses_append (hs : misses mark s = true) (ht : misses mark t = true) :
    misses mark (s ++ t) = true := by
  induction s with
  | nil => exact ht
  | cons c s ih =>
    rw [misses, Bool.and_eq_true] at hs
    rw [List.cons_append, misses, ih hs.2, Bool.and_true]
    exact differs_append hs.1 t

/-- A text without the first character of a mark misses the mark. -/
theorem misses_of_not_mem {c : Char} (h : c ∉ s) : misses (c :: mark) s = true := by
  induction s with
  | nil => rfl
  | cons d s ih =>
    simp only [List.mem_cons, not_or] at h
    simp [misses, differs, h.1, ih h.2]

/-- A text that misses a mark is passed over on the way to what is behind the mark. -/
theorem behind?_append_of_misses (h : misses mark s = true) (t : List Char) :
    behind? mark (s ++ t) = behind? mark t := by
  induction s with
  | nil => rfl
  | cons c s ih =>
    rw [misses, Bool.and_eq_true] at h
    rw [List.cons_append, behind?, ← List.cons_append,
      dropStart?_of_differs (differs_append h.1 t), ih h.2]

/-- What is behind a mark that a text begins with. -/
theorem behind?_mark (hmark : mark ≠ []) (t : List Char) : behind? mark (mark ++ t) = some t := by
  obtain ⟨c, mark, rfl⟩ := List.exists_cons_of_ne_nil hmark
  rw [List.cons_append, behind?, ← List.cons_append, Text.dropStart?_append]

/-- A text that misses a mark stands before the mark. -/
theorem before_append_of_misses (h : misses mark s = true) (t : List Char) :
    before mark (s ++ t) = s ++ before mark t := by
  induction s with
  | nil => rfl
  | cons c s ih =>
    rw [misses, Bool.and_eq_true] at h
    rw [List.cons_append, before, ← List.cons_append, Text.startsWith,
      dropStart?_of_differs (differs_append h.1 t), ih h.2]
    rfl

/-- Nothing stands before a mark that a text begins with. -/
theorem before_mark (hmark : mark ≠ []) (t : List Char) : before mark (mark ++ t) = [] := by
  obtain ⟨c, mark, rfl⟩ := List.exists_cons_of_ne_nil hmark
  rw [List.cons_append, before, ← List.cons_append, Text.startsWith, Text.dropStart?_append]
  rfl

/-- What stands between two marks, where nothing before the first one is taken for it and nothing
between them for the second one. -/
theorem between?_eq {opening closing : String} (hopening : opening.toList ≠ [])
    (hclosing : closing.toList ≠ []) (hs : misses opening.toList s = true)
    (ht : misses closing.toList t = true) (rest : List Char) :
    between? opening closing (s ++ (opening.toList ++ (t ++ (closing.toList ++ rest)))) =
      some t := by
  rw [between?, behind?_append_of_misses hs, behind?_mark hopening, Option.map_some,
    before_append_of_misses ht, before_mark hclosing, List.append_nil]

/-- Whether a text begins with a mark is settled by as many characters. -/
theorem startsWith_append (h : mark.length ≤ s.length) (t : List Char) :
    Text.startsWith mark (s ++ t) = Text.startsWith mark s := by
  induction mark generalizing s with
  | nil => rfl
  | cons p mark ih =>
    cases s with
    | nil => cases h
    | cons c s =>
      have hrest := ih (Nat.le_of_succ_le_succ h)
      rw [Text.startsWith] at hrest ⊢
      rw [List.cons_append, Text.dropStart?, Text.startsWith, Text.dropStart?]
      split
      · exact hrest
      · rfl

/-- What stands before the first mark does not depend on what is behind any mark. -/
theorem before_append_mark (hmark : mark ≠ []) (s t : List Char) :
    before mark (s ++ (mark ++ t)) = before mark (s ++ mark) := by
  induction s with
  | nil =>
    have hself := before_mark hmark []
    rw [List.append_nil] at hself
    rw [List.nil_append, List.nil_append, before_mark hmark, hself]
  | cons c s ih =>
    have hlength : mark.length ≤ (c :: (s ++ mark)).length := by
      simp only [List.length_cons, List.length_append]
      omega
    have hstarts := startsWith_append hlength t
    rw [List.cons_append, List.append_assoc] at hstarts
    rw [List.cons_append, List.cons_append, before, before, hstarts, ih]

/-- What stands before a mark behind a text begins that text. -/
theorem before_prefix (hmark : mark ≠ []) (s : List Char) : before mark (s ++ mark) <+: s := by
  induction s with
  | nil =>
    have hself := before_mark hmark []
    rw [List.append_nil] at hself
    exact List.prefix_nil.mpr hself
  | cons c s ih =>
    rw [List.cons_append, before]
    split
    · exact List.nil_prefix
    · exact List.cons_prefix_cons.mpr ⟨rfl, ih⟩

/-- The part of a document before its title. -/
def frontText : List Char :=
  "<!DOCTYPE html><html lang=\"en\"><head><meta charset=\"utf-8\">".toList ++
    "<meta name=\"viewport\" content=\"width=device-width, initial-scale=1\">".toList ++
    Html.writeAll headLinks ++ headMark

/-- A document is a fixed beginning, the title, and the body. -/
theorem text_eq (document : Document) :
    document.text = frontText ++ (document.titleText ++
      ("</head>".toList ++ (document.body.write ++ "</html>".toList))) := by
  have hassoc (a b c d e : List Char) : a ++ b ++ c ++ d ++ e = a ++ (b ++ (c ++ (d ++ e))) := by
    simp only [List.append_assoc]
  exact hassoc frontText document.titleText "</head>".toList document.body.write "</html>".toList

/-- Nothing before the title is taken for its beginning. -/
theorem misses_frontText : misses "<title>".toList frontText = true := by decide +kernel

/-- The raw text of a title ends at the first mark that ends a title, even if that is part of the
title itself. -/
theorem rawTitle?_eq {document : Document} {title : String} (h : document.title = some title) :
    document.rawTitle? =
      some (String.ofList (before "</title>".toList (title.toList ++ "</title>".toList))) := by
  have htitle : document.titleText =
      "<title>".toList ++ title.toList ++ "</title>".toList := by
    rw [titleText, h]
  rw [rawTitle?, text_eq, htitle, between?, behind?_append_of_misses misses_frontText,
    List.append_assoc, List.append_assoc, behind?_mark (by decide), Option.map_some,
    before_append_mark (by decide), Option.map_some]

/-- The raw text of a title without an angle bracket is that title. -/
theorem rawTitle?_of_not_mem {document : Document} {title : String}
    (h : document.title = some title) (hbracket : '<' ∉ title.toList) :
    document.rawTitle? = some title := by
  have hmisses : misses "</title>".toList title.toList = true := misses_of_not_mem hbracket
  have hmark : before "</title>".toList ("</title>".toList ++ []) = [] := before_mark (by decide) []
  rw [List.append_nil] at hmark
  rw [rawTitle?_eq h, before_append_of_misses hmisses, hmark, List.append_nil, String.ofList_toList]

/-- The raw text of a title has no angle bracket and is read as the title exactly if the title has
none and is what it reads as itself. -/
theorem rawTitle?_readable_iff {document : Document} {title : String}
    (h : document.title = some title) :
    (∃ raw, document.rawTitle? = some raw ∧ '<' ∉ raw.toList ∧
        Text.unescape raw.toList = title.toList) ↔
      '<' ∉ title.toList ∧ Text.unescape title.toList = title.toList := by
  constructor
  · rintro ⟨raw, hraw, hbracket, hread⟩
    rw [rawTitle?_eq h, Option.some.injEq] at hraw
    have hprefix : raw.toList <+: title.toList := by
      rw [← hraw, String.toList_ofList]
      exact before_prefix (by decide) _
    have hlength : title.toList.length ≤ raw.toList.length := by
      rw [← hread]
      exact Text.length_unescape_le _
    have heq : raw.toList = title.toList := hprefix.eq_of_length_le hlength
    rw [heq] at hbracket hread
    exact ⟨hbracket, hread⟩
  · rintro ⟨hbracket, hread⟩
    exact ⟨title, rawTitle?_of_not_mem h hbracket, hbracket, hread⟩

/-- Two texts of name characters that end before others differ, unless they are the same. -/
theorem differs_words {a b : List Char} (ha : ∀ c ∈ a, isNameChar c = true)
    (hb : ∀ c ∈ b, isNameChar c = true) (hne : a ≠ b) {x y : Char} (hx : isNameChar x = false)
    (hy : isNameChar y = false) (s t : List Char) : differs (a ++ x :: s) (b ++ y :: t) = true := by
  induction a generalizing b with
  | nil =>
    obtain ⟨d, b, rfl⟩ := List.exists_cons_of_ne_nil (Ne.symm hne)
    have hd : x ≠ d := Ne.symm (ne_of_isNameChar (hb d List.mem_cons_self) hx)
    simp [differs, hd]
  | cons c a ih =>
    have hc := ha c List.mem_cons_self
    cases b with
    | nil => simp [differs, ne_of_isNameChar hc hy]
    | cons d b =>
      by_cases hcd : c = d
      · subst hcd
        have hrest := ih (fun e he => ha e (List.mem_cons_of_mem c he))
          (fun e he => hb e (List.mem_cons_of_mem c he)) (fun h => hne (by rw [h]))
        simpa [differs] using hrest
      · simp [differs, hcd]

/-- A text behind an angle bracket that is not how a tag inside the main part of a page goes on. -/
structure IsOuter (mark : List Char) : Prop where
  opens : ∀ name, isInnerName name = true → ∀ c, c = ' ' ∨ c = '>' →
    ∀ rest, differs mark (name.toList ++ c :: rest) = true
  closes : ∀ name, isInnerName name = true →
    ∀ rest, differs mark ('/' :: (name.toList ++ '>' :: rest)) = true

/-- A text that begins with a bracket, goes on otherwise than a mark and has no other bracket misses
the mark. -/
theorem misses_of_differs (h : differs mark s = true) (hs : '<' ∉ s) :
    misses ('<' :: mark) ('<' :: s) = true := by
  rw [misses, misses_of_not_mem hs, Bool.and_true, differs, h, Bool.or_true]

/-- The characters of a name are no brackets. -/
theorem not_mem_of_isWord {name : String} (h : isWord name = true) {c : Char}
    (hc : isNameChar c = false) : c ∉ name.toList := by
  obtain ⟨d, rest, hname, hchars⟩ := chars_of_isWord h
  rw [hname]
  exact fun hmem => ne_of_isNameChar (hchars c hmem) hc rfl

/-- Attributes have no brackets. -/
theorem not_mem_writeAttributes {attributes : List (String × String)}
    (h : ∀ entry ∈ attributes, isWord entry.1 = true) :
    '<' ∉ Html.writeAttributes attributes := by
  rw [Html.writeAttributes, List.mem_flatMap]
  rintro ⟨⟨key, value⟩, hentry, hmem⟩
  have hkey : '<' ∉ key.toList := not_mem_of_isWord (h _ hentry) (by decide)
  have hvalue := Text.not_mem_escapeWith_attributeEscapes (c := '<') (Or.inl rfl) value.toList
  simp [hkey, hvalue] at hmem

/-- An opening tag inside the main part of a page misses an outer mark. -/
theorem misses_open (hmark : IsOuter mark) {name : String} (hname : isInnerName name = true)
    {attributes : List (String × String)}
    (h : ∀ entry ∈ attributes, isWord entry.1 = true) :
    misses ('<' :: mark) (openTag name attributes) = true := by
  have hbracket : '<' ∉ name.toList ++ (Html.writeAttributes attributes ++ ['>']) := by
    have hword := not_mem_of_isWord (isWord_of_isInnerName hname) (c := '<') (by decide)
    simp [hword, not_mem_writeAttributes h]
  refine misses_of_differs ?_ hbracket
  cases attributes with
  | nil => exact hmark.opens name hname '>' (Or.inr rfl) []
  | cons entry attributes => exact hmark.opens name hname ' ' (Or.inl rfl) _

/-- A closing tag inside the main part of a page misses an outer mark. -/
theorem misses_close (hmark : IsOuter mark) {name : String} (hname : isInnerName name = true) :
    misses ('<' :: mark) (closeTag name) = true := by
  have hword := not_mem_of_isWord (isWord_of_isInnerName hname) (c := '<') (by decide)
  exact misses_of_differs (hmark.closes name hname []) (by simp [hword])

mutual

/-- What is written for an inner part misses an outer mark. -/
theorem misses_write (hmark : IsOuter mark) :
    ∀ html : Html, html.isInner = true → misses ('<' :: mark) html.write = true
  | .element name attributes children, h => by
    rw [Html.isInner, Bool.and_eq_true, Bool.and_eq_true, List.all_eq_true] at h
    rw [write_element]
    exact misses_append (misses_open hmark h.1.1 h.1.2)
      (misses_append (misses_writeAll hmark children h.2) (misses_close hmark h.1.1))
  | .void name attributes, h => by
    rw [Html.isInner, Bool.and_eq_true, List.all_eq_true] at h
    rw [write_void]
    exact misses_open hmark h.1 h.2
  | .text content, _ => misses_of_not_mem (not_mem_writeText content)
  | .markup _, h => nomatch h

/-- What is written for inner parts misses an outer mark. -/
theorem misses_writeAll (hmark : IsOuter mark) :
    ∀ parts : List Html, Html.allInner parts = true →
      misses ('<' :: mark) (Html.writeAll parts) = true
  | [], _ => rfl
  | part :: rest, h => by
    rw [Html.allInner, Bool.and_eq_true] at h
    exact misses_append (misses_write hmark part h.1) (misses_writeAll hmark rest h.2)

end

/-- The first character of the name of an inner element. -/
theorem differs_of_not_nameChar {name : String} (hname : isInnerName name = true) {c : Char}
    (hc : isNameChar c = false) (mark rest : List Char) :
    differs (c :: mark) (name.toList ++ rest) = true := by
  obtain ⟨d, more, hchars, hword⟩ := chars_of_isWord (isWord_of_isInnerName hname)
  have hd : c ≠ d := Ne.symm (ne_of_isNameChar (hword d List.mem_cons_self) hc)
  simp [hchars, differs, hd]

/-- The name of an inner element is not that of the main part. -/
theorem differs_main {name : String} (hname : isInnerName name = true) {x y : Char}
    (hx : isNameChar x = false) (hy : isNameChar y = false) (s t : List Char) :
    differs ("main".toList ++ x :: s) (name.toList ++ y :: t) = true := by
  obtain ⟨d, more, hchars, hword⟩ := chars_of_isWord (isWord_of_isInnerName hname)
  have hne : "main".toList ≠ name.toList := by
    intro heq
    rw [isInnerName, ← String.toList_inj.mp heq] at hname
    exact absurd hname (by decide)
  exact differs_words (List.all_eq_true.mp (by decide)) (hchars ▸ hword) hne hx hy s t

/-- The main part begins with a mark that is not inside it. -/
theorem isOuter_mainOpening : IsOuter "main id=\"template-main\">".toList where
  opens name hname c hc rest := by
    have hblank : isNameChar c = false := by rcases hc with rfl | rfl <;> decide
    exact differs_main hname (x := ' ') (by decide) hblank _ rest
  closes name hname rest := rfl

/-- The main part ends with a mark that is not inside it. -/
theorem isOuter_mainClosing : IsOuter "/main></div></div></body>".toList where
  opens name hname c hc rest := differs_of_not_nameChar hname (by decide) _ _
  closes name hname rest := by
    have hmain := differs_main hname (x := '>') (y := '>') (by decide) (by decide)
      "</div></div></body>".toList rest
    exact hmain

/-- A placeholder is not inside a page otherwise. -/
theorem isOuter_placeholder : IsOuter ['!', '>'] where
  opens name hname c hc rest := differs_of_not_nameChar hname (by decide) _ _
  closes name hname rest := rfl

/-- A text that misses the placeholder keeps all its characters. -/
theorem dropPlaceholders_append_of_misses (h : misses ['<', '!', '>'] s = true) (t : List Char) :
    dropPlaceholders (s ++ t) = s ++ dropPlaceholders t := by
  induction s with
  | nil => rfl
  | cons c s ih =>
    rw [misses, Bool.and_eq_true] at h
    rw [List.cons_append, dropPlaceholders, ih h.2, List.cons_append]
    rintro rest rfl hrest
    have hstart := dropStart?_of_differs (differs_append h.1 t)
    rw [List.cons_append, hrest] at hstart
    cases hstart

/-- No placeholder lasts over a bracket. -/
theorem dropPlaceholders_append_bracket (s t : List Char) :
    dropPlaceholders (s ++ '<' :: t) = dropPlaceholders s ++ dropPlaceholders ('<' :: t) := by
  fun_induction dropPlaceholders s with
  | case1 rest ih => rw [List.cons_append, List.cons_append, List.cons_append, dropPlaceholders, ih]
  | case2 c rest hrest ih =>
    rw [List.cons_append, dropPlaceholders, ih, List.cons_append]
    intro more hc hmore
    match rest, hmore with
    | [], h => simp at h
    | [_], h => simp at h
    | a :: b :: rest, h =>
      simp only [List.cons_append, List.cons.injEq] at h
      exact hrest rest hc (by rw [h.1, h.2.1])
  | case3 => rfl

/-- What stands before the main part in the body of a page. -/
def bodyFront (document : Document) : List Char :=
  openTag "body" [] ++ (openTag "div" [("id", "template-page")] ++
    (openTag "div" [("id", "container-wrap")] ++ document.sidebar.write))

/-- The body of a page: its front, the main part between its marks, and the end. -/
theorem body_write (document : Document) :
    document.body.write =
      document.bodyFront ++ ("<main id=\"template-main\">".toList ++
        (Html.writeAll document.main ++ ("</main></div></div></body>".toList ++ []))) := by
  have hopening : "<main id=\"template-main\">".toList =
    openTag "main" [("id", "template-main")] := by decide
  have hclosing : "</main></div></div></body>".toList =
    closeTag "main" ++ (closeTag "div" ++ (closeTag "div" ++ closeTag "body")) := by decide
  rw [hopening, hclosing, body, bodyFront]
  simp only [write_element, Html.writeAll, List.append_nil, List.append_assoc]

/-- The mark of the main part is not before the title. -/
theorem main_misses_frontText : misses "<main id=\"template-main\">".toList frontText = true := by
  decide +kernel

/-- A title without an angle bracket misses the mark of the main part. -/
theorem main_misses_titleText {document : Document}
    (h : ∀ title, document.title = some title → '<' ∉ title.toList) :
    misses "<main id=\"template-main\">".toList document.titleText = true := by
  rw [titleText]
  split
  · next title htitle =>
    have hmiss : misses "<main id=\"template-main\">".toList title.toList = true :=
      misses_of_not_mem (h title htitle)
    exact misses_append (misses_append (by decide) hmiss) (by decide)
  · rfl

/-- The main part of a page is what is written for it, up to placeholders, if nothing in its title
is taken for its beginning and nothing in itself for its end. -/
theorem mainText?_eq {document : Document}
    (htitle : ∀ title, document.title = some title → '<' ∉ title.toList)
    (hsidebar : document.sidebar.isInner = true)
    (hmain : misses "</main></div></div></body>".toList (Html.writeAll document.main) = true) :
    document.mainText? =
      some (String.ofList (dropPlaceholders (Html.writeAll document.main))) := by
  have hinner (s : List Char) (h : misses ('<' :: "main id=\"template-main\">".toList) s = true) :
      misses "<main id=\"template-main\">".toList s = true := h
  have hbody : misses "<main id=\"template-main\">".toList document.bodyFront = true := by
    rw [bodyFront]
    exact misses_append (by decide) (misses_append (by decide) (misses_append (by decide)
      (hinner _ (misses_write isOuter_mainOpening _ hsidebar))))
  have hfront : misses "<main id=\"template-main\">".toList
      (frontText ++ (document.titleText ++ ("</head>".toList ++ document.bodyFront))) = true :=
    misses_append main_misses_frontText (misses_append (main_misses_titleText htitle)
      (misses_append (by decide) hbody))
  have htext : document.text =
      (frontText ++ (document.titleText ++ ("</head>".toList ++ document.bodyFront))) ++
        ("<main id=\"template-main\">".toList ++ (Html.writeAll document.main ++
          ("</main></div></div></body>".toList ++ "</html>".toList))) := by
    rw [text_eq, body_write]
    simp only [List.append_assoc, List.nil_append]
  rw [mainText?, htext, between?_eq (by decide) (by decide) hfront hmain, Option.map_some]

/-- Inner parts have no end of a main part. -/
theorem mainClosing_misses {parts : List Html} (h : Html.allInner parts = true) :
    misses "</main></div></div></body>".toList (Html.writeAll parts) = true := by
  have hmisses := misses_writeAll isOuter_mainClosing parts h
  exact hmisses

/-- Inner parts have no placeholder. -/
theorem dropPlaceholders_writeAll {parts : List Html} (h : Html.allInner parts = true) :
    dropPlaceholders (Html.writeAll parts) = Html.writeAll parts := by
  have hdrop := dropPlaceholders_append_of_misses (misses_writeAll isOuter_placeholder parts h) []
  rwa [List.append_nil, dropPlaceholders, List.append_nil] at hdrop

end Document

end Folio.Site
