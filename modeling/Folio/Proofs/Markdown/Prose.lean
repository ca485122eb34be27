import Folio.Markdown.Html
import Folio.Proofs.Markdown.Paragraph
import Mathlib.Data.List.Forall2

/-!
# Prose

Prose has blank lines, lines of three hyphens and lines of words. Hyphens under words make a heading
of the paragraph, and other hyphens are a rule, unless they begin a metadata block: words come in
the next line, and hyphens later. All up to these next hyphens is not shown. Every other word is.
-/

namespace Folio.Markdown

open Folio.Text (joinLines)

/-- A word of letters. -/
structure Word where
  letters : List Char
  nonempty : letters ≠ [] := by decide
  all_isAlpha : letters.all Char.isAlpha = true := by decide

/-- The characters of a word are letters. -/
theorem Word.isAlpha (word : Word) : ∀ c ∈ word.letters, c.isAlpha = true :=
  List.all_eq_true.mp word.all_isAlpha

/-- A line of words, with a space between each two. -/
structure WordLine where
  first : Word
  others : List Word

/-- The words of a line. -/
def WordLine.words (line : WordLine) : List (List Char) :=
  (line.first :: line.others).map Word.letters

/-- The text of a line of words. -/
def WordLine.text (line : WordLine) : List Char := [' '].intercalate line.words

/-- A word is a plain text. -/
theorem Word.isPlain (word : Word) : IsPlain word.letters where
  chars c hc := Or.inl (word.isAlpha c hc)
  first := by
    obtain ⟨c, rest, hword⟩ := List.exists_cons_of_ne_nil word.nonempty
    exact ⟨c, rest, hword, word.isAlpha c (hword ▸ List.mem_cons_self)⟩
  last c hc := word.isAlpha c (List.mem_of_getLast? hc)

/-- A plain text behind a word and a space is part of a plain text. -/
theorem IsPlain.word_append (word : Word) {s : List Char} (h : IsPlain s) :
    IsPlain (word.letters ++ [' '] ++ s) where
  chars c hc := by
    rw [List.mem_append, List.mem_append, List.mem_singleton] at hc
    rcases hc with (hword | hspace) | hs
    · exact Or.inl (word.isAlpha c hword)
    · exact Or.inr hspace
    · exact h.chars c hs
  first := by
    obtain ⟨c, rest, hword, hc⟩ := word.isPlain.first
    exact ⟨c, rest ++ [' '] ++ s, by rw [hword]; rfl, hc⟩
  last := by
    rw [List.getLast?_append_of_ne_nil _ h.ne_nil]
    exact h.last

/-- A line of words is a plain text. -/
theorem WordLine.isPlain (line : WordLine) : IsPlain line.text := by
  obtain ⟨first, others⟩ := line
  induction others generalizing first with
  | nil =>
    rw [text, words, List.map_singleton, List.intercalate_singleton]
    exact first.isPlain
  | cons second others ih =>
    rw [text, words, List.map_cons, List.map_cons, List.intercalate_cons_cons]
    exact (ih second).word_append first

/-- A line of prose. -/
inductive ProseLine where
  /-- Spaces and tabs, or nothing. -/
  | blank (gap : List Char) (indents : ∀ c ∈ gap, Cursor.indents c = true)
  | hyphens
  | words (line : WordLine)

namespace ProseLine

/-- The text of a line. -/
def text : ProseLine → List Char
  | .blank gap _ => gap
  | .hyphens => ['-', '-', '-']
  | .words line => line.text

/-- The words of a line. -/
def allWords : ProseLine → List (List Char)
  | .words line => line.words
  | _ => []

/-- Whether a line is three hyphens. -/
def isHyphens : ProseLine → Bool
  | .hyphens => true
  | _ => false

/-- Whether a line has words. -/
def isWords : ProseLine → Bool
  | .words _ => true
  | _ => false

end ProseLine

/-- Whether hyphens in front of these lines, but not under a line of words, begin a metadata
block. -/
def beginsMetadata : List ProseLine → Bool
  | .words _ :: rest => rest.any ProseLine.isHyphens
  | _ => false

/-- Whether hyphens begin a metadata block, given whether the line in front has words. -/
def hasMetadata : (underWords : Bool) → List ProseLine → Bool
  | _, [] => false
  | underWords, line :: rest =>
    (line.isHyphens && !underWords && beginsMetadata rest) || hasMetadata line.isWords rest

/-- What a line stands in. -/
inductive Place where
  /-- Between blocks. -/
  | fresh
  /-- Under a line of words. -/
  | paragraph
  /-- Behind the hyphens that begin a metadata block. -/
  | metadata
  deriving DecidableEq

/-- The lines of words that are shown, from a place on. -/
def shownLines : Place → List ProseLine → List WordLine
  | _, [] => []
  | .metadata, .hyphens :: rest => shownLines .fresh rest
  | .metadata, _ :: rest => shownLines .metadata rest
  | .fresh, .hyphens :: rest => shownLines (if beginsMetadata rest then .metadata else .fresh) rest
  | .paragraph, .hyphens :: rest => shownLines .fresh rest
  | _, .blank _ _ :: rest => shownLines .fresh rest
  | _, .words line :: rest => line :: shownLines .paragraph rest

/-- The words of prose that are shown. -/
def shownWords (prose : List ProseLine) : List (List Char) :=
  (shownLines .fresh prose).flatMap WordLine.words

/-- A line of words outside of metadata is shown. -/
theorem shownLines_words {place : Place} (h : place ≠ .metadata) (line : WordLine)
    (rest : List ProseLine) :
    shownLines place (.words line :: rest) = line :: shownLines .paragraph rest := by
  cases place with
  | fresh | paragraph => rfl
  | metadata => exact absurd rfl h

/-- A blank line at the end makes no difference. -/
theorem shownLines_concat_blank (place : Place) (prose : List ProseLine) (gap : List Char)
    (h : ∀ c ∈ gap, Cursor.indents c = true) :
    shownLines place (prose ++ [.blank gap h]) = shownLines place prose := by
  have hbegins (rest : List ProseLine) :
      beginsMetadata (rest ++ [.blank gap h]) = beginsMetadata rest := by
    cases rest with
    | nil => rfl
    | cons line rest => cases line <;> simp [beginsMetadata, ProseLine.isHyphens]
  induction prose generalizing place with
  | nil => cases place <;> rfl
  | cons line prose ih =>
    cases place <;> cases line <;> simp only [List.cons_append, shownLines, ih, hbegins]

/-- Empty lines in front make no difference. -/
theorem shownLines_dropWhile (prose : List ProseLine) :
    shownLines .fresh (prose.dropWhile (·.text.isEmpty)) = shownLines .fresh prose := by
  induction prose with
  | nil => rfl
  | cons line prose ih =>
    rw [List.dropWhile_cons]
    split
    case isTrue hempty =>
      cases line with
      | blank gap h => exact ih
      | hyphens => cases hempty
      | words line => exact absurd (List.isEmpty_iff.mp hempty) line.isPlain.ne_nil
    case isFalse => rfl

/-- Words that are shown are words of the prose, in their order. -/
theorem shownLines_sublist (place : Place) (prose : List ProseLine) :
    ((shownLines place prose).flatMap WordLine.words).Sublist
      (prose.flatMap ProseLine.allWords) := by
  induction prose generalizing place with
  | nil => cases place <;> exact List.Sublist.slnil
  | cons line prose ih =>
    rw [List.flatMap_cons]
    cases line with
    | blank | hyphens => cases place <;> exact ih _
    | words line =>
      cases place with
      | fresh | paragraph =>
        rw [shownLines_words (by decide), List.flatMap_cons]
        exact (ih .paragraph).append_left line.words
      | metadata => exact (ih .metadata).trans (List.sublist_append_right line.words _)

/-- From a place on, all words are shown if no hyphens begin a metadata block. -/
theorem shownLines_of_not_hasMetadata {place : Place} (hplace : place ≠ .metadata)
    {prose : List ProseLine} (h : hasMetadata (place = .paragraph) prose = false) :
    (shownLines place prose).flatMap WordLine.words = prose.flatMap ProseLine.allWords := by
  induction prose generalizing place with
  | nil => cases place <;> rfl
  | cons line prose ih =>
    rw [hasMetadata, Bool.or_eq_false_iff] at h
    rw [List.flatMap_cons]
    cases line with
    | blank gap hgap =>
      have hrest := @ih .fresh (by decide) h.2
      cases place with
      | fresh | paragraph => exact hrest
      | metadata => exact absurd rfl hplace
    | hyphens =>
      have hrest := @ih .fresh (by decide) h.2
      cases place with
      | fresh =>
        have hbegins : beginsMetadata prose = false := h.1
        rw [shownLines, hbegins]
        exact hrest
      | paragraph => exact hrest
      | metadata => exact absurd rfl hplace
    | words line =>
      rw [shownLines_words hplace, List.flatMap_cons, @ih .paragraph (by decide) h.2]
      rfl

/-- All words are shown if no hyphens begin a metadata block. -/
theorem shownWords_of_not_hasMetadata {prose : List ProseLine}
    (h : hasMetadata false prose = false) :
    shownWords prose = prose.flatMap ProseLine.allWords :=
  shownLines_of_not_hasMetadata (by decide) h

/-- A line of a document is spelled as a line of prose is. -/
def ProseLine.Spells (item : ProseLine) (line : Line) : Prop := line.text = item.text

/-- A line of prose ends a metadata block if it is three hyphens. -/
theorem closesMetadata_text (item : ProseLine) : closesMetadata '-' item.text = item.isHyphens := by
  cases item with
  | blank gap h =>
    have hnone {mark : Char} (hmark : Cursor.indents mark = false) : countLeading mark gap = 0 := by
      cases gap with
      | nil => rfl
      | cons c gap =>
        have hc : c ≠ mark := fun hc => by
          have hindents := h c List.mem_cons_self
          rw [hc, hmark] at hindents
          cases hindents
        simp [countLeading, hc]
    rw [ProseLine.text, closesMetadata, hnone (by decide), hnone (by decide)]
    rfl
  | hyphens => decide
  | words line =>
    obtain ⟨c, rest, htext, hc⟩ := line.isPlain.first
    rw [ProseLine.text, htext, closesMetadata_of_isAlpha hc]
    rfl

/-- Some line of a document ends a metadata block if some line of the prose is three hyphens. -/
theorem any_closesMetadata {prose : List ProseLine} {lines : List Line}
    (h : List.Forall₂ ProseLine.Spells prose lines) :
    (lines.any fun line => closesMetadata '-' line.text) = prose.any ProseLine.isHyphens := by
  induction h with
  | nil => rfl
  | cons hline _ ih => rw [List.any_cons, List.any_cons, ih, hline, closesMetadata_text]

/-- Only spaces and tabs are blank. -/
theorem blankRest_text (item : ProseLine) :
    blankRest item.text = (!item.isHyphens && !item.isWords) := by
  cases item with
  | blank gap h => exact blankRest_of_indents h
  | hyphens => decide
  | words line =>
    obtain ⟨c, rest, htext, hc⟩ := line.isPlain.first
    rw [ProseLine.text, htext, blankRest, List.all_cons, not_isLineBlank_of_isAlpha hc]
    rfl

/-- Hyphens begin a metadata block as the prose behind them says. -/
theorem metadataMark?_hyphens {prose : List ProseLine} {lines : List Line}
    (h : List.Forall₂ ProseLine.Spells prose lines) :
    metadataMark? ['-', '-', '-'] lines = if beginsMetadata prose then some '-' else none := by
  have hopens : opensMetadata '-' ['-', '-', '-'] = true := by decide
  cases h with
  | nil => rfl
  | @cons item line prose lines hline hlines =>
    -- What comes next must have words, and it is no fence itself.
    have hblank : blankRest line.text = (!item.isHyphens && !item.isWords) := by
      rw [hline, blankRest_text]
    have hcloses : closesMetadata '-' line.text = item.isHyphens := by
      rw [hline, closesMetadata_text]
    simp only [metadataMark?, hopens, hblank, hcloses, any_closesMetadata hlines]
    cases item <;> rfl

/-- Prose behind a metadata block is left over. -/
theorem metadataLines_prose {prose : List ProseLine} {lines : List Line}
    (h : List.Forall₂ ProseLine.Spells prose lines) :
    ∃ after rest,
      (∀ blocks blank references,
        metadataLines (BlockScan.flat blocks blank references) '-' lines = rest) ∧
      List.Forall₂ ProseLine.Spells after rest ∧ rest.length ≤ lines.length ∧
      shownLines .metadata prose = shownLines .fresh after := by
  induction h with
  | nil => exact ⟨[], [], fun _ _ _ => rfl, .nil, Nat.le_refl 0, rfl⟩
  | @cons item line prose lines hline hlines ih =>
    obtain ⟨after, rest, hrest, hspells, hlength, hshown⟩ := ih
    simp only [metadataLines, BlockScan.pass_flat]
    rw [hline, closesMetadata_text]
    cases item with
    | hyphens => exact ⟨prose, lines, fun _ _ _ => rfl, hlines, Nat.le_succ _, rfl⟩
    | blank | words => exact ⟨after, rest, hrest, hspells, Nat.le_succ_of_le hlength, hshown⟩

/-- A block of prose. -/
inductive ProseBlock where
  | paragraph (lines : List WordLine)
  | heading (lines : List WordLine)
  | rule

namespace ProseBlock

/-- The lines of words in a block. -/
def lines : ProseBlock → List WordLine
  | .paragraph lines | .heading lines => lines
  | .rule => []

/-- The events of a block. -/
def events : ProseBlock → List Event
  | .paragraph lines => Event.element .paragraph (lineEvents (lines.map WordLine.text))
  | .heading lines => Event.element (.heading 2 .empty) (lineEvents (lines.map WordLine.text))
  | .rule => [.rule]

end ProseBlock

/-- The block that lines of words make, as they end. -/
def ProseBlock.ofLines (underlined : Bool) (lines : List WordLine) : ProseBlock :=
  if underlined then .heading lines else .paragraph lines

/-- These are its lines. -/
theorem ProseBlock.lines_ofLines (underlined : Bool) (lines : List WordLine) :
    (ofLines underlined lines).lines = lines := by
  cases underlined <;> rfl

/-- Lines of words behind the first line of a paragraph go on with it. -/
theorem paragraphLines_prose {prose : List ProseLine} {lines : List Line}
    (h : List.Forall₂ ProseLine.Spells prose lines) :
    ∃ (segments : List Segment) (more : List WordLine) (underlined : Bool) (after : List ProseLine)
        (rest : List Line),
      (∀ blocks blank references,
        paragraphLines (BlockScan.flat blocks blank references) lines =
          (segments, if underlined then .underlined 2 else .plain, rest)) ∧
      segments.map (·.text) = more.map WordLine.text ∧
      List.Forall₂ ProseLine.Spells after rest ∧ rest.length ≤ lines.length ∧
      shownLines .paragraph prose = more ++ shownLines .fresh after := by
  induction h with
  | nil => exact ⟨[], [], false, [], [], fun _ _ _ => rfl, rfl, .nil, Nat.le_refl 0, rfl⟩
  | @cons item line prose lines hline hlines ih =>
    obtain ⟨text, ending⟩ := line
    cases hline
    cases item with
    | blank gap hgap =>
      exact ⟨[], [], false, .blank gap hgap :: prose, _,
        fun blocks blank references => paragraphLines_of_indents blocks blank references hgap lines,
        rfl, .cons rfl hlines, Nat.le_refl _, rfl⟩
    | hyphens =>
      exact ⟨[], [], true, prose, lines,
        fun blocks blank references => paragraphLines_hyphens blocks blank references ending lines,
        rfl, hlines, Nat.le_succ _, rfl⟩
    | words wordLine =>
      obtain ⟨segments, more, underlined, after, rest, hrest, htexts, hspells, hlength,
        hshown⟩ := ih
      obtain ⟨c, tail, htext, hc⟩ := wordLine.isPlain.first
      refine ⟨⟨[], [], wordLine.text, ending⟩ :: segments, wordLine :: more, underlined, after,
        rest, fun blocks blank references => ?_, ?_, hspells, Nat.le_succ_of_le hlength, ?_⟩
      · have hline := paragraphLines_of_isAlpha blocks blank references hc tail ending lines
        rw [← htext, hrest] at hline
        exact hline
      · rw [List.map_cons, htexts, List.map_cons]
      · rw [shownLines_words (by decide), hshown, List.cons_append]

/-- Reading lines adds blocks to a document, which are those of some prose. -/
def Adds (lines : List Line) (parts : List ProseBlock) : Prop :=
  ∀ bound blocks blank references, ∃ added last,
    readBlocks bound (BlockScan.flat blocks blank references) lines =
        BlockScan.flat (added.reverse ++ blocks) last references ∧
      ∀ references, Block.listEvents added references =
        (parts.flatMap ProseBlock.events, references)

/-- A block that is read in front of others is added in front of them. -/
theorem Adds.cons {line : Line} {following rest : List Line} {first parts : List ProseBlock}
    (h : Adds rest parts) (hlength : rest.length ≤ following.length)
    (hblock : ∀ bound blocks blank references, ∃ block last,
      readBlock bound (BlockScan.flat blocks blank references) line following =
          (BlockScan.flat (block :: blocks) last references, rest) ∧
        ∀ references, block.events references = (first.flatMap ProseBlock.events, references)) :
    Adds (line :: following) (first ++ parts) := by
  intro bound blocks blank references
  obtain ⟨block, middle, hread, hfirst⟩ := hblock bound blocks blank references
  obtain ⟨added, last, hrest, hevents⟩ := h bound (block :: blocks) middle references
  refine ⟨block :: added, last, ?_, fun references => ?_⟩
  · rw [readBlocks_cons hread hlength, hrest, List.reverse_cons, List.append_assoc,
      List.singleton_append]
  · rw [Block.listEvents, List.flatMap_append]
    simp only [bind, StateT.bind, hfirst, hevents]
    rfl

/-- A blank line adds nothing. -/
theorem Adds.blank {gap : List Char} (hgap : ∀ c ∈ gap, Cursor.indents c = true)
    {rest : List Line} {parts : List ProseBlock} (h : Adds rest parts) (ending : List Char) :
    Adds (⟨gap, ending⟩ :: rest) parts := by
  intro bound blocks blank references
  rw [readBlocks_cons (readBlock_of_indents blocks blank references bound hgap rest)
    (Nat.le_refl _)]
  exact h bound blocks true references

/-- Hyphens that begin no metadata block are a rule. -/
theorem Adds.rule {rest : List Line} (hmark : metadataMark? ['-', '-', '-'] rest = none)
    {parts : List ProseBlock} (h : Adds rest parts) (ending : List Char) :
    Adds (⟨['-', '-', '-'], ending⟩ :: rest) (.rule :: parts) := by
  change Adds _ ([.rule] ++ parts)
  refine h.cons (Nat.le_refl _) fun bound blocks blank references =>
    ⟨.rule, false, ?_, fun _ => ?_⟩
  · have hread := readBlock_hyphens blocks blank references bound ending rest
    rwa [hmark] at hread
  · rw [Block.events]
    rfl

/-- A metadata block is not shown. -/
theorem Adds.metadata {following rest : List Line}
    (hmark : metadataMark? ['-', '-', '-'] following = some '-')
    (hrest : ∀ blocks blank references,
      metadataLines (BlockScan.flat blocks blank references) '-' following = rest)
    (hlength : rest.length ≤ following.length) {parts : List ProseBlock} (h : Adds rest parts)
    (ending : List Char) : Adds (⟨['-', '-', '-'], ending⟩ :: following) parts := by
  change Adds _ ([] ++ parts)
  refine h.cons hlength fun bound blocks blank references =>
    ⟨.metadata, false, ?_, fun _ => ?_⟩
  · have hread := readBlock_hyphens blocks blank references bound ending following
    rw [hmark] at hread
    exact hread.trans (congrArg _ (hrest _ _ _))
  · rw [Block.events]
    rfl

/-- The events of a paragraph of lines of words. -/
theorem events_paragraphBlock {segments : List Segment} {lines : List WordLine}
    (hne : segments ≠ []) (htexts : segments.map (·.text) = lines.map WordLine.text)
    (underlined : Bool) (references : References) :
    (paragraphBlock .loose none segments (if underlined then .underlined 2 else .plain)).events
        references =
      ((ProseBlock.ofLines underlined lines).events, references) := by
  have hplain : ∀ segment ∈ segments, IsPlain segment.text := by
    intro segment hsegment
    have hmem : segment.text ∈ lines.map WordLine.text :=
      htexts ▸ List.mem_map_of_mem hsegment
    obtain ⟨line, -, hline⟩ := List.mem_map.mp hmem
    exact hline ▸ line.isPlain
  cases underlined with
  | true =>
    refine (events_underlined_of_plain hne hplain 2 references).trans ?_
    rw [htexts]
    rfl
  | false =>
    refine (events_paragraph_of_plain hplain references).trans ?_
    rw [htexts]
    rfl

/-- A line of words is the first line of a paragraph. -/
theorem Adds.words {following rest : List Line} {segments : List Segment} {more : List WordLine}
    {underlined : Bool}
    (hlines : ∀ blocks blank references,
      paragraphLines (BlockScan.flat blocks blank references) following =
        (segments, if underlined then .underlined 2 else .plain, rest))
    (htexts : segments.map (·.text) = more.map WordLine.text)
    (hlength : rest.length ≤ following.length) {parts : List ProseBlock} (h : Adds rest parts)
    (line : WordLine) (ending : List Char) :
    Adds (⟨line.text, ending⟩ :: following) (.ofLines underlined (line :: more) :: parts) := by
  change Adds _ ([.ofLines underlined (line :: more)] ++ parts)
  refine h.cons hlength fun bound blocks blank references =>
    ⟨paragraphBlock .loose none (⟨[], [], line.text, ending⟩ :: segments)
      (if underlined then .underlined 2 else .plain), false, ?_, fun references => ?_⟩
  · obtain ⟨c, tail, htext, hc⟩ := line.isPlain.first
    have hread := readBlock_of_isAlpha blocks blank references bound hc tail ending following
    rwa [← htext, readParagraph_of_plain blocks blank references line.isPlain, hlines] at hread
  · rw [List.flatMap_singleton]
    refine events_paragraphBlock (List.cons_ne_nil _ _) ?_ underlined references
    rw [List.map_cons, List.map_cons, htexts]

/-- Prose adds blocks with the words that are shown. -/
theorem exists_adds {prose : List ProseLine} {lines : List Line}
    (h : List.Forall₂ ProseLine.Spells prose lines) :
    ∃ parts, Adds lines parts ∧ parts.flatMap ProseBlock.lines = shownLines .fresh prose := by
  -- A paragraph and a metadata block take several lines, so the induction is on their number.
  induction hsize : lines.length using Nat.strong_induction_on generalizing prose lines with
  | _ size ih =>
    subst hsize
    cases h with
    | nil =>
      refine ⟨[], fun bound blocks blank references => ⟨[], blank, ?_, fun _ => rfl⟩, rfl⟩
      rw [readBlocks, List.reverse_nil, List.nil_append]
    | @cons item line prose following hline hfollowing =>
      have hnext {after : List ProseLine} {rest : List Line}
          (hspells : List.Forall₂ ProseLine.Spells after rest)
          (hlength : rest.length ≤ following.length) :
          ∃ parts, Adds rest parts ∧ parts.flatMap ProseBlock.lines = shownLines .fresh after :=
        ih rest.length (Nat.lt_succ_of_le hlength) hspells rfl
      obtain ⟨text, ending⟩ := line
      cases hline
      cases item with
      | blank gap hgap =>
        obtain ⟨parts, hparts, hlines⟩ := hnext hfollowing (Nat.le_refl _)
        exact ⟨parts, hparts.blank hgap ending, hlines⟩
      | hyphens =>
        have hmark := metadataMark?_hyphens hfollowing
        cases hbegins : beginsMetadata prose with
        | true =>
          rw [hbegins, if_pos rfl] at hmark
          obtain ⟨after, rest, hrest, hspells, hlength, hshown⟩ := metadataLines_prose hfollowing
          obtain ⟨parts, hparts, hlines⟩ := hnext hspells hlength
          refine ⟨parts, hparts.metadata hmark hrest hlength ending, ?_⟩
          rw [hlines, ← hshown, shownLines, hbegins, if_pos rfl]
        | false =>
          rw [hbegins, if_neg Bool.false_ne_true] at hmark
          obtain ⟨parts, hparts, hlines⟩ := hnext hfollowing (Nat.le_refl _)
          refine ⟨.rule :: parts, hparts.rule hmark ending, ?_⟩
          rw [List.flatMap_cons, hlines, shownLines, hbegins, if_neg Bool.false_ne_true]
          rfl
      | words line =>
        obtain ⟨segments, more, underlined, after, rest, hsegments, htexts, hspells, hlength,
          hshown⟩ := paragraphLines_prose hfollowing
        obtain ⟨parts, hparts, hlines⟩ := hnext hspells hlength
        refine ⟨.ofLines underlined (line :: more) :: parts,
          hparts.words hsegments htexts hlength line ending, ?_⟩
        rw [List.flatMap_cons, hlines, shownLines_words (by decide), hshown,
          ProseBlock.lines_ofLines, List.cons_append]

/-- No character of a line of prose ends a line. -/
theorem isUnbroken_text (item : ProseLine) : isUnbroken item.text = true := by
  have hchars {s : List Char} (hfeed : '\n' ∉ s) (hreturn : '\r' ∉ s) : isUnbroken s = true := by
    refine List.all_eq_true.mpr fun c hc => ?_
    have hfeed' : c ≠ '\n' := fun h => hfeed (h ▸ hc)
    have hreturn' : c ≠ '\r' := fun h => hreturn (h ▸ hc)
    simp [hfeed', hreturn']
  cases item with
  | blank gap h =>
    exact hchars (fun hmem => nomatch h _ hmem) (fun hmem => nomatch h _ hmem)
  | hyphens => decide
  | words line => exact hchars (line.isPlain.not_mem (by decide)) (line.isPlain.not_mem (by decide))

/-- The lines of prose spell it, but for an empty line at the end. -/
theorem exists_spells_ofTexts (prose : List ProseLine) :
    ∃ spelled, List.Forall₂ ProseLine.Spells spelled (Line.ofTexts (prose.map ProseLine.text)) ∧
      shownLines .fresh spelled = shownLines .fresh prose := by
  rcases prose.eq_nil_or_concat with rfl | ⟨front, last, rfl⟩
  · exact ⟨[], .nil, rfl⟩
  · have hfront : List.Forall₂ ProseLine.Spells front
        ((front.map ProseLine.text).map (⟨·, ['\n']⟩)) := by
      rw [List.map_map, List.forall₂_map_right_iff, List.forall₂_same]
      exact fun item _ => rfl
    rw [List.concat_eq_append, List.map_append, List.map_singleton, Line.ofTexts_concat]
    split
    case isTrue hempty =>
      rw [List.append_nil]
      refine ⟨front, hfront, ?_⟩
      cases last with
      | blank gap hgap => exact (shownLines_concat_blank .fresh front gap hgap).symm
      | hyphens => cases hempty
      | words line => exact absurd (List.isEmpty_iff.mp hempty) line.isPlain.ne_nil
    case isFalse => exact ⟨front ++ [last], List.rel_append hfront (.cons rfl .nil), rfl⟩

/-- A document of prose has blocks with the words that are shown. -/
theorem exists_events_prose (prose : List ProseLine) :
    ∃ parts : List ProseBlock,
      (Document.read (joinLines (prose.map ProseLine.text))).events =
          parts.flatMap ProseBlock.events ∧
        parts.flatMap ProseBlock.lines = shownLines .fresh prose := by
  obtain ⟨spelled, hspells, hshown⟩ :=
    exists_spells_ofTexts (prose.dropWhile fun item => item.text.isEmpty)
  obtain ⟨parts, hadds, hlines⟩ := exists_adds hspells
  have hsplit : Line.split (joinLines (prose.map ProseLine.text)) =
      Line.ofTexts ((prose.dropWhile fun item => item.text.isEmpty).map ProseLine.text) := by
    rw [Line.split_joinLines, List.dropWhile_map]
    · rfl
    · exact List.forall_mem_map.mpr fun item _ => isUnbroken_text item
  obtain ⟨added, last, hread, hevents⟩ := hadds
    ((joinLines (prose.map ProseLine.text)).length + 1) [] false
    (.empty (String.ofList (joinLines (prose.map ProseLine.text))).utf8ByteSize)
  refine ⟨parts, ?_, by rw [hlines, hshown, shownLines_dropWhile]⟩
  rw [read_of_flat (hsplit ▸ hread), Document.events, List.append_nil, List.reverse_reverse,
    hevents]

namespace ProseBlock

/-- The text of a block: its lines, with a line feed between each two. -/
def text (part : ProseBlock) : List Char := ['\n'].intercalate (part.lines.map WordLine.text)

/-- No mark is in the text of a block. -/
theorem not_mem_text (part : ProseBlock) {c : Char} (hc : c.isAlpha = false ∧ c ≠ ' ')
    (hfeed : c ≠ '\n') : c ∉ part.text := by
  rw [text]
  induction part.lines with
  | nil => exact List.not_mem_nil
  | cons line lines ih =>
    have hline := line.isPlain.not_mem hc
    cases lines with
    | nil => rwa [List.map_singleton, List.intercalate_singleton]
    | cons next lines =>
      rw [List.map_cons] at ih
      rw [List.map_cons, List.map_cons, List.intercalate_cons_cons]
      simp only [List.mem_append, List.mem_singleton, not_or]
      exact ⟨⟨hline, hfeed⟩, ih⟩

/-- A block as it is written. -/
def html (part : ProseBlock) : List Char :=
  match part with
  | .paragraph _ => "<p>".toList ++ part.text ++ "</p>\n".toList
  | .heading _ => "<h2>".toList ++ part.text ++ "</h2>\n".toList
  | .rule => "<hr />\n".toList

end ProseBlock

/-- Letters and spaces are written as they are. -/
theorem escapeWith_of_plain {s : List Char} (h : IsPlain s) :
    Text.escapeWith Text.textEscapes s = s := by
  have hnone : ∀ c ∈ s, Text.textEscapes c = none := fun c hc => by
    have hne {d : Char} (hd : d.isAlpha = false ∧ d ≠ ' ') : c ≠ d := fun heq =>
      h.not_mem hd (heq ▸ hc)
    rw [Text.textEscapes]
    all_goals exact hne (by decide)
  calc Text.escapeWith Text.textEscapes s
    _ = s.flatMap fun c => [c] := List.flatMap_congr fun c hc => by rw [hnone c hc]
    _ = s := List.flatMap_singleton' s

namespace HtmlWriter

/-- A writer outside of tables and images that has mentioned no footnotes. -/
def bare (output : List Char) (fresh : Bool) : HtmlWriter := { initial with output, fresh }

/-- Plain lines are written as they are. -/
theorem write_lines {texts : List (List Char)} (h : ∀ s ∈ texts, IsPlain s) (output : List Char)
    (fresh : Bool) :
    ∃ last, (lineEvents texts).foldl write (bare output fresh) =
      bare ((['\n'].intercalate texts).reverse ++ output) last := by
  induction texts generalizing output fresh with
  | nil => exact ⟨fresh, rfl⟩
  | cons s texts ih =>
    rw [List.forall_mem_cons] at h
    have htext : (bare output fresh).write (.text s) =
        bare (s.reverse ++ output) (s.getLast? = some '\n') := by
      rw [write, bare, initial]
      simp only [event, append, escapeWith_of_plain h.1]
      rfl
    cases texts with
    | nil =>
      refine ⟨s.getLast? = some '\n', ?_⟩
      rw [List.intercalate_singleton, ← htext]
      rfl
    | cons next texts =>
      obtain ⟨last, hrest⟩ := ih h.2 ('\n' :: (s.reverse ++ output)) true
      refine ⟨last, ?_⟩
      have hbreak (fresh : Bool) : (bare (s.reverse ++ output) fresh).write .softBreak =
          bare ('\n' :: (s.reverse ++ output)) true := rfl
      have hevents : lineEvents (s :: next :: texts) =
          .text s :: .softBreak :: lineEvents (next :: texts) := rfl
      rw [hevents, List.foldl_cons, List.foldl_cons, htext, hbreak, hrest,
        List.intercalate_cons_cons]
      simp

/-- An element of plain lines is written between its tags. -/
theorem write_element {tag : Tag} {opening closing : List Char}
    (hstart : ∀ output, (bare output true).write (.start tag) =
      bare (opening.reverse ++ output) false)
    (hfinish : ∀ output fresh, (bare output fresh).write (.finish tag) =
      bare (closing.reverse ++ output) true)
    (lines : List WordLine) (output : List Char) :
    (Event.element tag (lineEvents (lines.map WordLine.text))).foldl write (bare output true) =
      bare ((opening ++ ['\n'].intercalate (lines.map WordLine.text) ++ closing).reverse ++ output)
        true := by
  obtain ⟨last, hlines⟩ := write_lines
    (List.forall_mem_map.mpr fun line _ => WordLine.isPlain line) (opening.reverse ++ output) false
  rw [Event.element, List.cons_append, List.foldl_cons, hstart, List.foldl_append, hlines,
    List.foldl_cons, List.foldl_nil, hfinish, List.reverse_append, List.reverse_append,
    List.append_assoc, List.append_assoc]

/-- A block of prose is written on lines of its own. -/
theorem write_part (part : ProseBlock) (output : List Char) :
    part.events.foldl write (bare output true) = bare (part.html.reverse ++ output) true := by
  cases part with
  | paragraph lines => exact write_element (fun _ => rfl) (fun _ _ => rfl) lines output
  | heading lines => exact write_element (fun _ => rfl) (fun _ _ => rfl) lines output
  | rule => rfl

end HtmlWriter

/-- The HTML of prose is that of its blocks. -/
theorem html_prose (parts : List ProseBlock) :
    Markdown.html (parts.flatMap ProseBlock.events) = parts.flatMap ProseBlock.html := by
  have hwrite (output : List Char) :
      (parts.flatMap ProseBlock.events).foldl HtmlWriter.write (.bare output true) =
        .bare ((parts.flatMap ProseBlock.html).reverse ++ output) true := by
    induction parts generalizing output with
    | nil => rfl
    | cons part parts ih =>
      rw [List.flatMap_cons, List.foldl_append, HtmlWriter.write_part, ih, List.flatMap_cons,
        List.reverse_append, List.append_assoc]
  have hinitial := congrArg HtmlWriter.output (hwrite [])
  rw [List.append_nil] at hinitial
  rw [Markdown.html, ← List.reverse_reverse (parts.flatMap ProseBlock.html)]
  exact congrArg List.reverse hinitial

/-- Letters are read into a word. -/
theorem words_append_of_isAlpha {s : List Char} (h : ∀ c ∈ s, c.isAlpha = true)
    (rest current : List Char) :
    Text.CodePoints.words (s ++ rest) current =
      Text.CodePoints.words rest (s.reverse ++ current) := by
  induction s generalizing current with
  | nil => rfl
  | cons c s ih =>
    rw [List.forall_mem_cons] at h
    have hspace : c ≠ ' ' := ne_of_isAlpha h.1 (by decide)
    have hfeed : c ≠ '\n' := ne_of_isAlpha h.1 (by decide)
    rw [List.cons_append, Text.CodePoints.words, if_neg (by simp [hspace, hfeed]), ih h.2,
      List.reverse_cons, List.append_assoc, List.singleton_append]

/-- A space or a line feed ends a word. -/
theorem words_word (word : Word) {c : Char} (h : c = ' ' ∨ c = '\n') (rest : List Char) :
    Text.CodePoints.words (word.letters ++ c :: rest) [] =
      word.letters :: Text.CodePoints.words rest [] := by
  have hend : (c = ' ' || c = '\n') = true := by simpa using h
  have hne : word.letters.reverse.isEmpty = false := by simp [word.nonempty]
  rw [words_append_of_isAlpha word.isAlpha, List.append_nil, Text.CodePoints.words, hend, hne,
    List.reverse_reverse]
  rfl

/-- The words of a line are those in its text. -/
theorem words_line (line : WordLine) (rest : List Char) :
    Text.CodePoints.words (line.text ++ '\n' :: rest) [] =
      line.words ++ Text.CodePoints.words rest [] := by
  obtain ⟨first, others⟩ := line
  induction others generalizing first with
  | nil =>
    rw [WordLine.text, WordLine.words, List.map_singleton, List.intercalate_singleton,
      words_word first (Or.inr rfl), List.singleton_append]
  | cons second others ih =>
    have hsecond := ih second
    rw [WordLine.text, WordLine.words] at hsecond ⊢
    rw [List.map_cons, List.map_cons, List.intercalate_cons_cons, List.append_assoc,
      List.append_assoc, List.singleton_append, words_word first (Or.inl rfl), ← List.map_cons,
      hsecond]
    rfl

/-- The words of a block are those in its text. -/
theorem words_lines (lines : List WordLine) (rest : List Char) :
    Text.CodePoints.words (['\n'].intercalate (lines.map WordLine.text) ++ '\n' :: rest) [] =
      lines.flatMap WordLine.words ++ Text.CodePoints.words rest [] := by
  induction lines with
  | nil => rfl
  | cons line lines ih =>
    cases lines with
    | nil =>
      rw [List.map_singleton, List.intercalate_singleton, words_line, List.flatMap_singleton]
    | cons next lines =>
      rw [List.map_cons] at ih
      rw [List.map_cons, List.map_cons, List.intercalate_cons_cons, List.append_assoc,
        List.append_assoc, List.singleton_append, words_line, ih, ← List.append_assoc,
        ← List.flatMap_cons]

/-- The words of blocks are those in their texts. -/
theorem words_parts (parts : List ProseBlock) :
    Text.CodePoints.words (parts.flatMap fun part => part.text ++ ['\n']) [] =
      (parts.flatMap ProseBlock.lines).flatMap WordLine.words := by
  induction parts with
  | nil => rfl
  | cons part parts ih =>
    rw [List.flatMap_cons, List.append_assoc, List.singleton_append, ProseBlock.text, words_lines,
      ih, List.flatMap_cons, List.flatMap_append]

end Folio.Markdown
