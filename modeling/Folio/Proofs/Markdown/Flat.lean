import Folio.Markdown.Document
import Folio.Text.Lines
import Mathlib.Data.List.TakeWhile

/-!
# Documents without containers

The body of a source is made of the source's lines, joined by line feeds. Its own lines are these
again, without the empty ones in front and an empty one at the end.

While no container but the document is open, every line has all markers, nothing has to be closed,
and a line that begins with no marker is a blank one or the first line of a leaf. Reading such a
document adds one block after another to it.
-/

namespace Folio.Markdown

open Folio.Text (joinLines)

/-- Whether a text holds no character that ends a line. -/
def isUnbroken (s : List Char) : Bool := s.all fun c => c ≠ '\n' && c ≠ '\r'

namespace Line

/-- The lines whose texts are joined by line feeds. -/
def ofTexts : List (List Char) → List Line
  | [] => []
  | [last] => if last.isEmpty then [] else [⟨last, []⟩]
  | text :: next :: rest => ⟨text, ['\n']⟩ :: ofTexts (next :: rest)

/-- A character that ends no line stands in front of the first line. -/
theorem split_cons {c : Char} (h : (c ≠ '\n' && c ≠ '\r') = true) (s : List Char) :
    split (c :: s) = consChar c (split s) := by
  simp only [Bool.and_eq_true, decide_eq_true_eq] at h
  rw [split]
  · exact h.1
  · exact fun _ hc _ => h.2 hc
  · exact h.2

/-- A text with a line feed behind it is the first line. -/
theorem split_append_feed {s : List Char} (h : isUnbroken s = true) (rest : List Char) :
    split (s ++ '\n' :: rest) = ⟨s, ['\n']⟩ :: split rest := by
  induction s with
  | nil => rfl
  | cons c s ih =>
    rw [isUnbroken, List.all_cons, Bool.and_eq_true] at h
    rw [List.cons_append, split_cons h.1, ih h.2, consChar]

/-- A text without line ends is a line. -/
theorem split_of_isUnbroken {s : List Char} (h : isUnbroken s = true) : split s = ofTexts [s] := by
  induction s with
  | nil => rfl
  | cons c s ih =>
    rw [isUnbroken, List.all_cons, Bool.and_eq_true] at h
    rw [split_cons h.1, ih h.2]
    cases s <;> rfl

/-- Texts that are joined by line feeds are the lines. -/
theorem split_joined {first : List Char} {rest : List (List Char)}
    (h : ∀ s ∈ first :: rest, isUnbroken s = true) :
    split (first ++ rest.flatMap fun s => '\n' :: s) = ofTexts (first :: rest) := by
  induction rest generalizing first with
  | nil => rw [List.flatMap_nil, List.append_nil, split_of_isUnbroken (h first List.mem_cons_self)]
  | cons next rest ih =>
    rw [List.forall_mem_cons] at h
    rw [List.flatMap_cons, List.cons_append, split_append_feed h.1, ih h.2, ofTexts]

/-- The lines of a joined text are the lines that were joined, without empty ones in front. -/
theorem split_joinLines {texts : List (List Char)} (h : ∀ s ∈ texts, isUnbroken s = true) :
    split (joinLines texts) = ofTexts (texts.dropWhile List.isEmpty) := by
  induction texts with
  | nil => rfl
  | cons first rest ih =>
    cases first with
    | nil =>
      rw [List.forall_mem_cons] at h
      rw [List.dropWhile_cons_of_pos rfl, ← ih h.2]
      rfl
    | cons c first =>
      have hc : c ≠ '\n' := by
        have hfirst := h _ List.mem_cons_self
        rw [isUnbroken, List.all_cons, Bool.and_eq_true, Bool.and_eq_true] at hfirst
        simpa using hfirst.1.1
      rw [List.dropWhile_cons_of_neg (by simp), ← split_joined h, joinLines, List.flatMap_cons,
        List.cons_append, List.dropWhile_cons_of_pos (by simp), List.cons_append,
        List.dropWhile_cons_of_neg (by simpa using hc)]

/-- All lines but the last one have a line feed, and the last one is not empty. -/
theorem ofTexts_concat (texts : List (List Char)) (last : List Char) :
    ofTexts (texts ++ [last]) =
      texts.map (⟨·, ['\n']⟩) ++ if last.isEmpty then [] else [⟨last, []⟩] := by
  induction texts with
  | nil => rfl
  | cons text texts ih =>
    rw [List.cons_append, List.map_cons, List.cons_append, ← ih]
    cases texts <;> rfl

end Line

namespace Cursor

@[simp]
theorem rest_start (s : List Char) : (start s).rest = s := rfl

@[simp]
theorem spare_start (s : List Char) : (start s).spare = 0 := rfl

@[simp]
theorem passed_start (s : List Char) : (start s).passed = 0 := rfl

/-- Whether a character indents a line: a space or a tab. -/
def indents (c : Char) : Bool := c = ' ' || c = '\t'

/-- What is left behind some columns is an end of the text. -/
theorem rest_skipText_suffix (cursor : Cursor) (s : List Char) (n : Nat) :
    (cursor.skipText s n).1.rest <:+ s := by
  fun_induction skipText cursor s n with
  | case1 => exact List.suffix_rfl
  | case2 cursor rest n ih => exact ih.trans (List.suffix_cons _ _)
  | case3 cursor rest n width used ih => exact ih.trans (List.suffix_cons _ _)
  | case4 => exact List.suffix_rfl

/-- Columns are missing only where the indentation ends. -/
theorem skipText_stops (cursor : Cursor) (s : List Char) (n : Nat) :
    (cursor.skipText s n).2 = 0 ∨ ∀ c ∈ (cursor.skipText s n).1.rest.head?, indents c = false := by
  fun_induction skipText cursor s n with
  | case1 => exact Or.inl rfl
  | case2 cursor rest n ih => exact ih
  | case3 cursor rest n width used ih => exact ih
  | case4 cursor s n hzero hspace htab =>
    refine Or.inr fun c hc => ?_
    obtain ⟨rest, rfl⟩ := List.head?_eq_some_iff.mp hc
    obtain ⟨m, rfl⟩ := Nat.exists_eq_succ_of_ne_zero hzero
    simp only [indents, Bool.or_eq_false_iff, decide_eq_false_iff_not]
    exact ⟨fun hc => hspace rest m (hc ▸ rfl) rfl, fun hc => htab rest m (hc ▸ rfl) rfl⟩

/-- There are no columns to skip in a text that is not indented. -/
theorem skipText_of_head {s : List Char} (h : ∀ c ∈ s.head?, indents c = false) (cursor : Cursor)
    (n : Nat) : cursor.skipText s n = ({ cursor with rest := s }, n) := by
  cases n with
  | zero => rw [skipText]
  | succ n =>
    rw [skipText]
    · exact Nat.succ_ne_zero n
    · rintro rest m rfl
      cases h ' ' rfl
    · rintro rest m rfl
      cases h '\t' rfl

/-- A cursor at the start of a text that is not indented stays where it is. -/
theorem skip_start {s : List Char} (h : ∀ c ∈ s.head?, indents c = false) (n : Nat) :
    (start s).skip n = (start s, n) := by
  simp only [skip, start, Nat.zero_min, Nat.sub_zero]
  exact skipText_of_head h _ n

/-- There is nothing to use up of such a text. -/
theorem skipUpTo_start {s : List Char} (h : ∀ c ∈ s.head?, indents c = false) (n : Nat) :
    (start s).skipUpTo n = (start s, 0) := by
  simp [skipUpTo, skip_start h]

/-- No column is skipped. -/
theorem skip_start_zero (s : List Char) : (start s).skip 0 = (start s, 0) := by
  simp [skip, start, skipText]

/-- What is left behind some columns of a text is an end of it. -/
theorem rest_skip_start_suffix (s : List Char) (n : Nat) : ((start s).skip n).1.rest <:+ s := by
  simp only [skip, start, Nat.zero_min, Nat.sub_zero]
  exact rest_skipText_suffix _ s n

/-- Behind a text that only indents, columns are missing only if it is used up. -/
theorem skip_start_of_indents {s : List Char} (h : ∀ c ∈ s, indents c = true) (n : Nat) :
    ((start s).skip n).2 = 0 ∨ ((start s).skip n).1.rest = [] := by
  have hrest := rest_skip_start_suffix s n
  have hstops : ((start s).skip n).2 = 0 ∨
      ∀ c ∈ ((start s).skip n).1.rest.head?, indents c = false := by
    simp only [skip, start, Nat.zero_min, Nat.sub_zero]
    exact skipText_stops _ s n
  refine hstops.imp_right fun hhead => ?_
  cases hleft : ((start s).skip n).1.rest with
  | nil => rfl
  | cons c rest =>
    rw [hleft] at hrest hhead
    have hc := h c (hrest.subset List.mem_cons_self)
    rw [hhead c rfl] at hc
    cases hc

/-- Behind all indentation a text that only indents is used up. -/
theorem atEnd_skipAll {cursor : Cursor} (h : ∀ c ∈ cursor.rest, indents c = true) :
    cursor.skipAll.atEnd = true := by
  have hall : (cursor.rest.takeWhile fun c => c = ' ' || c = '\t') = cursor.rest :=
    List.takeWhile_eq_self_iff.mpr h
  simp [skipAll, atEnd, hall]

/-- There is no indentation to skip in a text that is not indented. -/
theorem skipAll_start {s : List Char} (h : ∀ c ∈ s.head?, indents c = false) :
    (start s).skipAll = start s := by
  have hnone : (s.takeWhile fun c => c = ' ' || c = '\t') = [] := by
    cases s with
    | nil => rfl
    | cons c s =>
      have hc := h c rfl
      rw [indents] at hc
      rw [List.takeWhile_cons_of_neg (by simpa using hc)]
  simp [skipAll, start, hnone]

end Cursor

namespace BlockScan

/-- The state in which no container but the document is open. -/
def flat (blocks : List Block) (blank : Bool) (references : References) : BlockScan :=
  ⟨[⟨.document, blocks⟩], blank, false, references⟩

variable (blocks : List Block) (blank : Bool) (references : References)

@[simp]
theorem initial_eq_flat (size : Nat) : initial size = flat [] false (.empty size) := rfl

@[simp]
theorem add_flat (block : Block) :
    (flat blocks blank references).add block = flat (block :: blocks) blank references := rfl

@[simp]
theorem frames_flat : (flat blocks blank references).frames = [⟨.document, blocks⟩] := rfl

@[simp]
theorem top_flat : (flat blocks blank references).top = .document := rfl

@[simp]
theorem closeTo_flat :
    (flat blocks blank references).closeTo 1 = flat blocks blank references := rfl

@[simp]
theorem finishList_flat :
    (flat blocks blank references).finishList = flat blocks false references := by
  cases blank <;> rfl

@[simp]
theorem passBlank_flat :
    (flat blocks blank references).passBlank = flat blocks true references := rfl

@[simp]
theorem reach_flat (cursor : Cursor) : (flat blocks blank references).reach cursor = (1, cursor) :=
  rfl

@[simp]
theorem pass_flat (cursor : Cursor) : (flat blocks blank references).pass cursor = (true, cursor) :=
  rfl

end BlockScan

/-- Whether a text begins with no character that begins a marker of a container. -/
def opensNone : List Char → Bool
  | [] => true
  | c :: _ => !(['[', '-', '+', '*', ':', '>'].contains c) && !c.isDigit

/-- No mark of an item begins there. -/
theorem itemMark?_of_opensNone {cursor : Cursor} (h : opensNone cursor.rest = true)
    (indent : Nat) : cursor.itemMark? indent = (none, cursor) := by
  have hread : ItemMark.read? cursor.rest = none := by
    cases hrest : cursor.rest with
    | nil => rfl
    | cons c rest =>
      simp [hrest, opensNone] at h
      simp [ItemMark.read?, itemNumber?, h]
  simp [Cursor.itemMark?, hread]

/-- No character of a marker of another container stands there. -/
theorem eat?_of_opensNone {cursor : Cursor} (h : opensNone cursor.rest = true) :
    cursor.eat? ':' = none ∧ cursor.eat? '>' = none := by
  cases hrest : cursor.rest with
  | nil => simp [Cursor.eat?, hrest]
  | cons c rest =>
    simp [hrest, opensNone] at h
    simp [Cursor.eat?, hrest, h]

/-- No footnote is defined there. -/
theorem footnoteDefinition?_of_opensNone {s : List Char} (h : opensNone s = true)
    (scan : BlockScan) (ending : List Char) (following : List Line) :
    footnoteDefinition? scan s ending following = none := by
  rw [footnoteDefinition?.eq_def]
  split
  · cases h
  · rfl

/-- A line that begins with no marker opens no container. -/
theorem openContainers_of_opensNone (fuel : Nat) (scan : BlockScan) {point : Point}
    (h : opensNone (point.cursor.skipUpTo 4).1.rest = true) :
    openContainers fuel scan point = (scan, .leaf point) := by
  cases fuel with
  | zero => rfl
  | succ fuel =>
    rw [openContainers]
    obtain ⟨hcolon, hquote⟩ := eat?_of_opensNone h
    simp only [footnoteDefinition?_of_opensNone h, itemMark?_of_opensNone h,
      Cursor.definitionMark?, Cursor.quoteMark?, hcolon, hquote, bind, Option.bind, ite_self]

/-- Three hyphens are no mark of an item, but a thematic break. -/
theorem openContainers_hyphens (fuel : Nat) (scan : BlockScan) (ending : List Char)
    (following : List Line) :
    openContainers fuel scan (Point.ofLine ⟨['-', '-', '-'], ending⟩ following) =
      (scan, .leaf (Point.ofLine ⟨['-', '-', '-'], ending⟩ following)) := by
  cases fuel with
  | zero => rfl
  | succ fuel =>
    have hskip : (Cursor.start ['-', '-', '-']).skipUpTo 4 =
        (Cursor.start ['-', '-', '-'], 0) := rfl
    have hfootnote : footnoteDefinition? scan ['-', '-', '-'] ending following = none := rfl
    have hitem : (Cursor.start ['-', '-', '-']).itemMark? 0 =
        (none, Cursor.start ['-', '-', '-']) := rfl
    have hdefinition : (Cursor.start ['-', '-', '-']).definitionMark? 0 = none := rfl
    have hquote : (Cursor.start ['-', '-', '-']).quoteMark? = none := rfl
    rw [openContainers]
    simp [Point.ofLine, hskip, hfootnote, hitem, hdefinition, hquote]

variable (blocks : List Block) (blank : Bool) (references : References)

/-- A line that opens no container is a blank one or the first line of a leaf. -/
theorem readBlock_flat {bound : Nat} {line : Line} {following : List Line}
    (h : openContainers bound (BlockScan.flat blocks blank references)
        (Point.ofLine line following) =
      (BlockScan.flat blocks blank references, .leaf (Point.ofLine line following))) :
    readBlock bound (BlockScan.flat blocks blank references) line following =
      if blankRest line.text then (BlockScan.flat blocks true references, following)
      else readLeaf (BlockScan.flat blocks blank references) (Point.ofLine line following) := by
  have hpoint : { Point.ofLine line following with cursor := Cursor.start line.text } =
      Point.ofLine line following := rfl
  simp only [readBlock, BlockScan.reach_flat, BlockScan.closeTo_flat, BlockScan.top_flat, hpoint, h,
    BlockScan.passBlank_flat]
  rfl

/-- Spaces and tabs are blank. -/
theorem blankRest_of_indents {s : List Char} (h : ∀ c ∈ s, Cursor.indents c = true) :
    blankRest s = true := by
  refine List.all_eq_true.mpr fun c hc => ?_
  have hindents := h c hc
  rw [Cursor.indents, Bool.or_eq_true, decide_eq_true_eq, decide_eq_true_eq] at hindents
  rcases hindents with rfl | rfl <;> rfl

/-- A line of spaces and tabs is passed. -/
theorem readBlock_of_indents (bound : Nat) {line : Line}
    (h : ∀ c ∈ line.text, Cursor.indents c = true) (following : List Line) :
    readBlock bound (BlockScan.flat blocks blank references) line following =
      (BlockScan.flat blocks true references, following) := by
  have hopens : openContainers bound (BlockScan.flat blocks blank references)
      (Point.ofLine line following) =
        (BlockScan.flat blocks blank references, .leaf (Point.ofLine line following)) := by
    refine openContainers_of_opensNone bound _ ?_
    have hrest : ((Cursor.start line.text).skipUpTo 4).1.rest <:+ line.text :=
      Cursor.rest_skip_start_suffix line.text 4
    rw [Point.ofLine]
    cases hleft : ((Cursor.start line.text).skipUpTo 4).1.rest with
    | nil => rfl
    | cons c rest =>
      have hc := h c (hrest.subset (hleft ▸ List.mem_cons_self))
      rw [Cursor.indents, Bool.or_eq_true, decide_eq_true_eq, decide_eq_true_eq] at hc
      rcases hc with rfl | rfl <;> rfl
  rw [readBlock_flat _ _ _ hopens, if_pos (blankRest_of_indents h)]

/-- Hyphens begin a metadata block or are a rule. -/
theorem readBlock_hyphens (bound : Nat) (ending : List Char) (following : List Line) :
    readBlock bound (BlockScan.flat blocks blank references) ⟨['-', '-', '-'], ending⟩ following =
      match metadataMark? ['-', '-', '-'] following with
      | some mark =>
        (BlockScan.flat (.metadata :: blocks) false references,
          metadataLines (BlockScan.flat (.metadata :: blocks) false references) mark following)
      | none => (BlockScan.flat (.rule :: blocks) false references, following) := by
  have hskip : (Cursor.start ['-', '-', '-']).skipUpTo 4 = (Cursor.start ['-', '-', '-'], 0) := rfl
  have hrule : isThematicBreak ['-', '-', '-'] = true := by decide
  have hblank : ¬blankRest ['-', '-', '-'] = true := by decide
  rw [readBlock_flat _ _ _ (openContainers_hyphens bound _ ending following), if_neg hblank,
    readLeaf]
  cases hmark : metadataMark? ['-', '-', '-'] following <;>
    simp [Point.ofLine, hskip, hmark, hrule]

/-- The blocks of the lines that a block leaves over follow it. -/
theorem readBlocks_cons {bound : Nat} {scan next : BlockScan} {line : Line}
    {following rest : List Line} (h : readBlock bound scan line following = (next, rest))
    (hrest : rest.length ≤ following.length) :
    readBlocks bound scan (line :: following) = readBlocks bound next rest := by
  rw [readBlocks, h]
  simp [hrest]

/-- A document whose blocks were added one after another has these blocks. -/
theorem read_of_flat {text : List Char} {blocks : List Block} {blank : Bool}
    {references : References}
    (h : readBlocks (text.length + 1)
        (BlockScan.flat [] false (.empty (String.ofList text).utf8ByteSize)) (Line.split text) =
      BlockScan.flat blocks blank references) :
    Document.read text = ⟨blocks.reverse, references⟩ := by
  simp only [Document.read, BlockScan.initial_eq_flat, h, BlockScan.closeTo_flat]
  rfl

end Folio.Markdown
