import Folio.Highlight.CodeBlock
import Folio.Highlight.Language
import Folio.Proofs.Text.Lines
import Mathlib.Data.List.Basic

/-!
# Code blocks are replaced in place

Events with tidy code blocks are a row of stretches: each is a code block with its texts, or one
event outside. A block becomes one piece of HTML, made of its information and of its texts put
together, and every other event stays as it is and where it is. The events of every document are
tidy.
-/

namespace Folio.Highlight

open Folio.Markdown (Block Document Event Inline Leaf References Tag Token)
open Folio.Text (endLines)

/-- Whether an event starts a code block. -/
def startsCode : Event → Bool
  | .start (.code _) => true
  | _ => false

/-- Whether an event starts or finishes a code block. -/
def isCodeMark : Event → Bool
  | .start (.code _) | .finish (.code _) => true
  | _ => false

/-- Whether an event is HTML. -/
def isHtml : Event → Bool
  | .html _ => true
  | _ => false

/-- Whether every code block among events is closed, is within no other one and holds texts only,
given whether one is open. -/
def tidyFrom : (isOpen : Bool) → List Event → Bool
  | isOpen, [] => !isOpen
  | false, .start (.code _) :: rest => tidyFrom true rest
  | true, .text _ :: rest => tidyFrom true rest
  | true, .finish (.code _) :: rest => tidyFrom false rest
  | true, _ :: _ => false
  | false, .finish (.code _) :: _ => false
  | false, _ :: rest => tidyFrom false rest

/-- Whether every code block among events is closed, is within no other one and holds texts only. -/
def tidy (events : List Event) : Bool := tidyFrom false events

/-- A code block with its texts, or an event outside of code blocks. -/
inductive Stretch where
  | block (info : Option (List Char)) (texts : List (List Char)) (closing : Option (List Char))
  | outside (event : Event) (noMark : isCodeMark event = false)

namespace Stretch

/-- The events of a stretch. -/
def events : Stretch → List Event
  | .block info texts closing =>
    .start (.code info) :: (texts.map .text ++ [.finish (.code closing)])
  | .outside event _ => [event]

/-- What is shown for a stretch. -/
def shown (render : Option (List Char) → List Char → List Char) : Stretch → Event
  | .block info texts _ => .html (render info texts.flatten)
  | .outside event _ => event

/-- A stretch with the texts of a block put together. -/
def joined : Stretch → Stretch
  | .block info texts _ => .block info [texts.flatten] info
  | .outside event noMark => .outside event noMark

end Stretch

/-- Behind the part of a block that is still open, tidy events are events of stretches. -/
theorem exists_stretches_from {isOpen : Bool} {events : List Event}
    (h : tidyFrom isOpen events = true) :
    ∃ (texts : List (List Char)) (closing : Option (List Char)) (stretches : List Stretch),
      events =
        (if isOpen then texts.map .text ++ [.finish (.code closing)] else []) ++
          stretches.flatMap Stretch.events := by
  fun_induction tidyFrom isOpen events with
  | case1 isOpen =>
    obtain rfl : isOpen = false := by simpa using h
    exact ⟨[], none, [], rfl⟩
  | case2 info rest ih =>
    obtain ⟨texts, closing, stretches, rfl⟩ := ih h
    exact ⟨[], none, .block info texts closing :: stretches, by simp [Stretch.events]⟩
  | case3 text rest ih =>
    obtain ⟨texts, closing, stretches, rfl⟩ := ih h
    exact ⟨text :: texts, closing, stretches, by simp⟩
  | case4 closing rest ih =>
    obtain ⟨-, -, stretches, rfl⟩ := ih h
    exact ⟨[], closing, stretches, by simp⟩
  | case5 | case6 => cases h
  | case7 event rest hstart hfinish ih =>
    obtain ⟨-, -, stretches, rfl⟩ := ih h
    have hmark : isCodeMark event = false := by
      rw [isCodeMark.eq_def]
      split
      · next info => exact (hstart info rfl).elim
      · next info => exact (hfinish info rfl).elim
      · rfl
    exact ⟨[], none, .outside event hmark :: stretches, by simp [Stretch.events]⟩

/-- Tidy events are events of stretches. -/
theorem exists_stretches {events : List Event} (h : tidy events = true) :
    ∃ stretches : List Stretch, events = stretches.flatMap Stretch.events := by
  obtain ⟨texts, closing, stretches, hevents⟩ := exists_stretches_from h
  exact ⟨stretches, by simpa using hevents⟩

variable (render : Option (List Char) → List Char → List Char)

/-- An event outside of code blocks stays. -/
theorem replaceCodeFrom_outside {event : Event} (h : isCodeMark event = false)
    (rest : List Event) :
    replaceCodeFrom render none (event :: rest) = event :: replaceCodeFrom render none rest := by
  cases event with
  | start tag | finish tag => cases tag <;> first | rfl | cases h
  | _ => rfl

/-- The texts of an open block are put together until it is closed. -/
theorem replaceCodeFrom_texts (info : Option (List Char)) (text : List Char)
    (texts : List (List Char)) (closing : Option (List Char)) (rest : List Event) :
    replaceCodeFrom render (some ⟨info, text⟩)
        (texts.map .text ++ .finish (.code closing) :: rest) =
      .html (render info (text ++ texts.flatten)) :: replaceCodeFrom render none rest := by
  induction texts generalizing text with
  | nil => rw [List.map_nil, List.nil_append, List.flatten_nil, List.append_nil, replaceCodeFrom]
  | cons first texts ih =>
    rw [List.map_cons, List.cons_append, replaceCodeFrom, ih, List.flatten_cons, List.append_assoc]

/-- A stretch in front is replaced by what is shown for it. -/
theorem replaceCodeFrom_stretch (stretch : Stretch) (rest : List Event) :
    replaceCodeFrom render none (stretch.events ++ rest) =
      stretch.shown render :: replaceCodeFrom render none rest := by
  cases stretch with
  | block info texts closing =>
    rw [Stretch.events, List.cons_append, List.append_assoc, replaceCodeFrom,
      List.singleton_append, replaceCodeFrom_texts, List.nil_append, Stretch.shown]
  | outside event hmark => exact replaceCodeFrom_outside render hmark rest

/-- Stretches in front are replaced by what is shown for them. -/
theorem replaceCode_stretches_append (stretches : List Stretch) (rest : List Event) :
    replaceCode render (stretches.flatMap Stretch.events ++ rest) =
      stretches.map (Stretch.shown render) ++ replaceCode render rest := by
  rw [replaceCode, replaceCode]
  induction stretches with
  | nil => rfl
  | cons stretch stretches ih =>
    rw [List.flatMap_cons, List.append_assoc, replaceCodeFrom_stretch, ih, List.map_cons,
      List.cons_append]

/-- Stretches are replaced by what is shown for them. -/
theorem replaceCode_stretches (stretches : List Stretch) :
    replaceCode render (stretches.flatMap Stretch.events) =
      stretches.map (Stretch.shown render) := by
  have h := replaceCode_stretches_append render stretches []
  rwa [List.append_nil, show replaceCode render [] = [] from rfl, List.append_nil] at h

/-- A block of code becomes the HTML of its text, also if it has none. -/
theorem replaceCode_code (info : Option (List Char)) (text : List Char) :
    replaceCode render
        (Event.element (.code info) (if text.isEmpty then [] else [.text text])) =
      [.html (render info text)] := by
  cases text with
  | nil => exact replaceCode_stretches render [.block info [] info]
  | cons c text =>
    have h := replaceCode_stretches render [.block info [c :: text] info]
    rwa [List.map_singleton, Stretch.shown, List.flatten_singleton] at h

/-- Events without code blocks stay as they are. -/
theorem replaceCode_of_no_marks {events : List Event}
    (h : ∀ event ∈ events, isCodeMark event = false) : replaceCode render events = events := by
  rw [replaceCode]
  induction events with
  | nil => rfl
  | cons event events ih =>
    rw [List.forall_mem_cons] at h
    rw [replaceCodeFrom_outside render h.1, ih h.2]

namespace Stretch

/-- What is shown is no part of a code block. -/
theorem not_isCodeMark_shown (stretch : Stretch) : isCodeMark (stretch.shown render) = false := by
  cases stretch with
  | block info texts closing => rfl
  | outside event noMark => exact noMark

/-- What is shown does not depend on how the texts of a block are cut. -/
theorem shown_joined (stretch : Stretch) : stretch.joined.shown render = stretch.shown render := by
  cases stretch with
  | block info texts closing => simp [joined, shown]
  | outside event noMark => rfl

/-- One event of a stretch that is HTML or starts a code block is what is shown as HTML. -/
theorem countP_isHtml_shown (stretch : Stretch) :
    [stretch.shown render].countP isHtml =
      stretch.events.countP isHtml + stretch.events.countP startsCode := by
  cases stretch with
  | block info texts closing =>
    have htexts (p : Event → Bool) (hp : ∀ s, p (.text s) = false) :
        (texts.map Event.text).countP p = 0 := by
      rw [List.countP_eq_zero]
      simp [hp]
    simp only [events, List.countP_cons, List.countP_append, htexts isHtml fun _ => rfl,
      htexts startsCode fun _ => rfl]
    rfl
  | outside event noMark =>
    have hstart : startsCode event = false := by
      cases event with
      | start tag => cases tag <;> first | rfl | cases noMark
      | _ => rfl
    simp [shown, events, List.countP_cons, hstart]

end Stretch

/-- There is one more event of HTML for each code block. -/
theorem countP_isHtml_replaceCode (stretches : List Stretch) :
    (stretches.map (Stretch.shown render)).countP isHtml =
      (stretches.flatMap Stretch.events).countP isHtml +
        (stretches.flatMap Stretch.events).countP startsCode := by
  induction stretches with
  | nil => rfl
  | cons stretch stretches ih =>
    have hfirst := stretch.countP_isHtml_shown render
    rw [List.map_cons, ← List.singleton_append, List.countP_append, ih, hfirst, List.flatMap_cons,
      List.countP_append, List.countP_append]
    omega

/-- What follows tidy events decides whether all are tidy. -/
theorem tidyFrom_append {isOpen : Bool} {events : List Event} (h : tidyFrom isOpen events = true)
    (more : List Event) : tidyFrom isOpen (events ++ more) = tidy more := by
  fun_induction tidyFrom isOpen events with
  | case1 isOpen =>
    obtain rfl : isOpen = false := by simpa using h
    rfl
  | case2 info rest ih | case3 text rest ih | case4 closing rest ih => exact ih h
  | case5 | case6 => cases h
  | case7 event rest hstart hfinish ih =>
    rw [List.cons_append, tidyFrom]
    · exact ih h
    · exact hstart
    · exact hfinish

/-- Tidy events behind tidy ones are tidy. -/
theorem tidy_append {events more : List Event} (h : tidy events = true) (hmore : tidy more = true) :
    tidy (events ++ more) = true := by
  rw [tidy, tidyFrom_append h, hmore]

/-- Tidy events in a row are tidy. -/
theorem tidy_flatMap {α : Type} {f : α → List Event} {items : List α}
    (h : ∀ a ∈ items, tidy (f a) = true) : tidy (items.flatMap f) = true := by
  induction items with
  | nil => rfl
  | cons a items ih =>
    rw [List.forall_mem_cons] at h
    rw [List.flatMap_cons]
    exact tidy_append h.1 (ih h.2)

/-- An event outside of code blocks is tidy. -/
theorem tidy_singleton {event : Event} (h : isCodeMark event = false) : tidy [event] = true := by
  cases event with
  | start tag | finish tag => cases tag <;> first | rfl | cases h
  | _ => rfl

/-- An element other than a code block is tidy if what it holds is. -/
theorem tidy_element {tag : Tag} (htag : isCodeMark (.start tag) = false) {inside : List Event}
    (h : tidy inside = true) : tidy (Event.element tag inside) = true := by
  have hfinish : isCodeMark (.finish tag) = false := by
    cases tag <;> first | rfl | cases htag
  exact tidy_append (tidy_append (tidy_singleton htag) h) (tidy_singleton hfinish)

mutual

/-- The events of an inline element are tidy. -/
theorem tidy_inline : ∀ element : Inline, tidy element.events = true
  | .text _ | .code _ | .math _ _ | .html _ | .softBreak | .hardBreak | .footnote _ | .task _ => by
    rw [Inline.events]
    rfl
  | .stress kind children => by
    rw [Inline.events]
    exact tidy_element rfl (tidy_inlines children)
  | .link kind target children => by
    rw [Inline.events]
    exact tidy_element rfl (tidy_inlines children)

/-- The events of inline elements in a row are tidy. -/
theorem tidy_inlines : ∀ elements : List Inline, tidy (Inline.listEvents elements) = true
  | [] => by
    rw [Inline.listEvents]
    rfl
  | element :: rest => by
    rw [Inline.listEvents]
    exact tidy_append (tidy_inline element) (tidy_inlines rest)

end

/-- The events of a block's text are tidy. -/
theorem tidy_leaf (leaf : Leaf) (references : References) :
    tidy (leaf.events references).1 = true := by
  obtain ⟨task, tokens⟩ := leaf
  cases task with
  | none =>
    have hnone : tidy [] = true := rfl
    exact tidy_append hnone (tidy_inlines _)
  | some done =>
    have htask : tidy [Event.task done] = true := rfl
    exact tidy_append htask (tidy_inlines _)

/-- The events of a row's cells are tidy. -/
theorem tidy_cells (cells : List (List Token)) (references : References) :
    tidy (Markdown.cellEvents cells references).1 = true :=
  tidy_flatMap fun elements _ => tidy_element rfl (tidy_inlines elements)

/-- What holds of each result of an action holds of all its results in a row. -/
theorem forall_mem_mapM {α β σ : Type} {p : β → Prop} {act : α → StateM σ β}
    (h : ∀ a s, p (act a s).1) (items : List α) (s : σ) : ∀ b ∈ (items.mapM act s).1, p b := by
  induction items generalizing s with
  | nil => exact fun b hb => absurd hb List.not_mem_nil
  | cons a items ih =>
    rw [List.mapM_cons]
    exact List.forall_mem_cons.mpr ⟨h a s, ih (act a s).2⟩

mutual

/-- The events of a block are tidy. -/
theorem tidy_block : ∀ (block : Block) (references : References),
    tidy (block.events references).1 = true
  | .container kind children, references => by
    have hinside := tidy_blocks children references
    rw [Block.events]
    cases kind <;> first | exact hinside | exact tidy_element rfl hinside
  | .paragraph role text, references => by
    have hinside := tidy_leaf text references
    rw [Block.events]
    change tidy (if role = .tight then (text.events references).1
      else Event.element .paragraph (text.events references).1) = true
    split
    · exact hinside
    · exact tidy_element rfl hinside
  | .title text, references | .heading _ _ text, references => by
    rw [Block.events]
    exact tidy_element rfl (tidy_leaf text references)
  | .rule, _ | .task _, _ | .metadata, _ => by
    rw [Block.events]
    rfl
  | .code info text, _ => by
    rw [Block.events]
    cases text <;> rfl
  | .html lines, _ => by
    rw [Block.events]
    refine tidy_flatMap fun line _ => ?_
    exact tidy_append (by split <;> rfl) rfl
  | .table alignments head rows, references => by
    rw [Block.events]
    refine tidy_element rfl (tidy_append (tidy_element rfl (tidy_cells head references)) ?_)
    refine tidy_flatMap fun row hrow => tidy_element rfl ?_
    exact forall_mem_mapM (p := fun row => tidy row = true) tidy_cells rows _ row hrow

/-- The events of blocks in a row are tidy. -/
theorem tidy_blocks : ∀ (blocks : List Block) (references : References),
    tidy (Block.listEvents blocks references).1 = true
  | [], _ => by
    rw [Block.listEvents]
    rfl
  | block :: rest, references => by
    rw [Block.listEvents]
    exact tidy_append (tidy_block block references) (tidy_blocks rest _)

end

/-- The events of a document are tidy. -/
theorem tidy_document (document : Document) : tidy document.events = true :=
  tidy_blocks document.blocks document.references

/-- Among tidy events no part of a code block is left. -/
theorem not_isCodeMark_of_mem {events : List Event} (h : tidy events = true) :
    ∀ event ∈ replaceCode render events, isCodeMark event = false := by
  obtain ⟨stretches, rfl⟩ := exists_stretches h
  rw [replaceCode_stretches, List.forall_mem_map]
  exact fun stretch _ => stretch.not_isCodeMark_shown render

/-- In a document no part of a code block is left, whatever the document is. -/
theorem not_isCodeMark_of_mem_document (document : Document) :
    ∀ event ∈ replaceCode render document.events, isCodeMark event = false :=
  not_isCodeMark_of_mem render (tidy_document document)

/-- Code blocks are replaced, and nothing else is. -/
structure ReplacesOnlyCode (events : List Event) : Prop where
  /-- Each block becomes the HTML of its information and its texts, in its place. -/
  inPlace : ∃ stretches : List Stretch, events = stretches.flatMap Stretch.events ∧
    replaceCode render events = stretches.map (Stretch.shown render)
  /-- No part of a code block is left. -/
  noMarks : ∀ event ∈ replaceCode render events, isCodeMark event = false
  /-- There is one more event of HTML for each block. -/
  oneEach : (replaceCode render events).countP isHtml =
    events.countP isHtml + events.countP startsCode
  /-- How the text of a block is cut makes no difference. -/
  anyCut : ∀ stretches others : List Stretch, events = stretches.flatMap Stretch.events →
    others.map Stretch.joined = stretches.map Stretch.joined →
      replaceCode render (others.flatMap Stretch.events) = replaceCode render events
  /-- What stands behind the events is replaced as if it stood alone. -/
  append : ∀ more,
    replaceCode render (events ++ more) = replaceCode render events ++ replaceCode render more
  /-- Without code blocks nothing changes. -/
  unchanged : (∀ event ∈ events, isCodeMark event = false) → replaceCode render events = events

/-- Tidy code blocks are replaced in place by one piece of HTML each, and nothing else is: no part
of a block is left, how its text is cut makes no difference, events in a row are replaced apart, and
events without code blocks stay as they are. -/
theorem only_code_is_replaced {events : List Event} (h : tidy events = true) :
    ReplacesOnlyCode render events where
  inPlace := by
    obtain ⟨stretches, rfl⟩ := exists_stretches h
    exact ⟨stretches, rfl, replaceCode_stretches render stretches⟩
  noMarks := not_isCodeMark_of_mem render h
  oneEach := by
    obtain ⟨stretches, rfl⟩ := exists_stretches h
    rw [replaceCode_stretches, countP_isHtml_replaceCode]
  anyCut := by
    rintro stretches others rfl hjoined
    have hshown (items : List Stretch) : items.map (Stretch.shown render) =
        (items.map Stretch.joined).map (Stretch.shown render) := by
      simp [Stretch.shown_joined]
    rw [replaceCode_stretches, replaceCode_stretches, hshown, hjoined, ← hshown]
  append more := by
    obtain ⟨stretches, rfl⟩ := exists_stretches h
    rw [replaceCode_stretches_append, replaceCode_stretches]
  unchanged := replaceCode_of_no_marks render

/-- Two code blocks, one cut in two and one empty, between other events. -/
def mixedEvents : List Event :=
  [.text ['a'], .start (.code (some ['r', 's'])), .text ['x'], .text ['y', '\n'],
    .finish (.code (some ['r', 's'])), .rule, .start (.code none), .finish (.code none),
    .text ['b']]

/-- Only the two code blocks are replaced. -/
theorem only_code_is_replaced_mixed :
    tidy mixedEvents = true ∧ ReplacesOnlyCode (fun _ text => text) mixedEvents ∧
    replaceCode (fun _ text => text) mixedEvents =
      [.text ['a'], .html ['x', 'y', '\n'], .rule, .html [], .text ['b']] :=
  ⟨rfl, only_code_is_replaced _ rfl, rfl⟩

/-- A line with its line feed is the first one. -/
theorem lines_append_feed {line : List Char} (h : '\n' ∉ line) (rest : List Char) :
    lines (line ++ '\n' :: rest) = (line ++ ['\n']) :: lines rest := by
  induction line with
  | nil => rfl
  | cons c line ih =>
    obtain ⟨hc, hline⟩ := List.ne_and_not_mem_of_not_mem_cons h
    rw [List.cons_append, lines, ih hline]
    · rfl
    · exact Ne.symm hc

/-- Lines with a line feed behind each are the lines of a text. -/
theorem lines_endLines {code : List (List Char)} (h : ∀ line ∈ code, '\n' ∉ line) :
    lines (endLines code) = code.map (· ++ ['\n']) := by
  induction code with
  | nil => rfl
  | cons line code ih =>
    rw [List.forall_mem_cons] at h
    rw [endLines, List.flatMap_cons, ← endLines, List.append_assoc, List.singleton_append,
      lines_append_feed h.1, ih h.2, List.map_cons]

/-- What a listing begins with. -/
def listingOpening : List Char := "<pre style=\"background-color:#2b303b;\">\n".toList

/-- What a listing ends with. -/
def listingClosing : List Char := "</pre>\n".toList

/-- A line of plain text as it is shown in a listing: in one span, with its line feed. -/
def plainSpan (line : List Char) : List Char :=
  "<span style=\"color:#c0c5ce;\">".toList ++
    Text.escapeWith Text.quoteEscapes (line ++ ['\n']) ++ "</span>".toList

/-- A stretch of plain text is shown in one span. -/
theorem html_plain (line : List Char) :
    Span.html (Style.plain, line ++ ['\n']) = plainSpan line := by
  have hopening : "<span style=\"".toList ++ Style.plain.css.toList ++ "\">".toList =
      "<span style=\"color:#c0c5ce;\">".toList := by decide
  -- The equations of definitions with such long literals take too long to derive.
  delta Span.html plainSpan
  dsimp only
  rw [hopening]

/-- A listing of plain text has one span for each line. -/
theorem plainListing_endLines {code : List (List Char)} (h : ∀ line ∈ code, '\n' ∉ line) :
    plainListing (endLines code) = listingOpening ++ code.flatMap plainSpan ++ listingClosing := by
  have hspan (line : List Char) : (join [(Style.plain, line ++ ['\n'])]).flatMap Span.html =
      plainSpan line := by
    rw [join, joinFrom, List.flatMap_cons, List.flatMap_nil, List.append_nil, html_plain]
  rw [plainListing, lines_endLines h, List.map_map]
  delta listing listingOpening listingClosing
  simp only [List.flatMap_map, Function.comp_apply, hspan]

/-- Code behind a fence without a name is shown as plain text. -/
theorem listingFor_nameless (code : List Char) : listingFor (some []) code = plainListing code := by
  have hlanguage : language? [] = none := by
    rw [language?, List.find?_eq_none]
    simp [languages]
  rw [listingFor, Option.bind_some, hlanguage]

end Folio.Highlight
