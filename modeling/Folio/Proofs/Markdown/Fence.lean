import Folio.Markdown.Event
import Folio.Proofs.Markdown.Flat
import Folio.Proofs.Text.Lines

/-!
# Fenced code

The text of a fenced block is what stands between its fences, line by line. No line of it is looked
at as anything but a possible closing fence, so lines that look like rules, headings, lists or tags
are text.
-/

namespace Folio.Markdown

open Folio.Text (endLines joinLines)

/-- A fence of three backticks. -/
def fence : List Char := ['`', '`', '`']

/-- A fence is not indented. -/
theorem indents_fence : ∀ c ∈ fence.head?, Cursor.indents c = false := by
  rintro c ⟨⟩
  rfl

/-- A text without a backtick at its head closes no fence. -/
theorem closesFence_of_not_mem {s : List Char} (h : '`' ∉ s) (size : Nat) :
    closesFence '`' (size + 1) s = false := by
  have hcount : countLeading '`' s = 0 := by
    cases s with
    | nil => rfl
    | cons c s =>
      have hc : c ≠ '`' := fun hc => h (hc ▸ List.mem_cons_self)
      simp [countLeading, hc]
  simp [closesFence, hcount]

/-- A line feed behind a text without carriage returns stays alone. -/
theorem normalEnding_feed {s : List Char} (h : '\r' ∉ s) :
    normalEnding (s ++ ['\n']) = s ++ ['\n'] := by
  rw [normalEnding.eq_def]
  split
  · next rest hrest =>
    rw [List.reverse_append, List.reverse_singleton, List.singleton_append,
      List.cons.injEq] at hrest
    have hmem : '\r' ∈ s.reverse := hrest.2 ▸ List.mem_cons_self
    exact absurd (List.mem_reverse.mp hmem) h
  · rfl

variable (blocks : List Block) (blank : Bool) (references : References)

/-- A closing fence ends the text. -/
theorem fencedLines_fence (ending : List Char) (following : List Line) :
    fencedLines (BlockScan.flat blocks blank references) '`' 3 0 (⟨fence, ending⟩ :: following) =
      ([], following) := by
  have hskip : (Cursor.start fence).skip 4 = (Cursor.start fence, 4) :=
    Cursor.skip_start indents_fence 4
  have hcloses : closesFence '`' 3 fence = true := by decide
  rw [fencedLines]
  simp [Cursor.skip_start_zero, hskip, hcloses]

/-- A line without backticks is part of the text. -/
theorem fencedLines_cons {line : List Char} (hticks : '`' ∉ line) (hreturn : '\r' ∉ line)
    (following : List Line) :
    fencedLines (BlockScan.flat blocks blank references) '`' 3 0 (⟨line, ['\n']⟩ :: following) =
      (line ++ '\n' ::
          (fencedLines (BlockScan.flat blocks blank references) '`' 3 0 following).1,
        (fencedLines (BlockScan.flat blocks blank references) '`' 3 0 following).2) := by
  have hcloses : closesFence '`' 3 ((Cursor.start line).skip 4).1.rest = false :=
    closesFence_of_not_mem
      (fun hmem => hticks ((Cursor.rest_skip_start_suffix line 4).subset hmem)) 2
  rw [fencedLines]
  simp [Cursor.skip_start_zero, hcloses, rawFrom, rawText, normalEnding_feed hreturn]

/-- The lines up to a closing fence are the text of a block. -/
theorem fencedLines_code {code : List (List Char)} (hcode : ∀ line ∈ code, '`' ∉ line ∧ '\r' ∉ line)
    (ending : List Char) (following : List Line) :
    fencedLines (BlockScan.flat blocks blank references) '`' 3 0
        (code.map (⟨·, ['\n']⟩) ++ ⟨fence, ending⟩ :: following) =
      (endLines code, following) := by
  induction code with
  | nil => exact fencedLines_fence blocks blank references ending following
  | cons line code ih =>
    rw [List.forall_mem_cons] at hcode
    rw [List.map_cons, List.cons_append, fencedLines_cons _ _ _ hcode.1.1 hcode.1.2, ih hcode.2,
      endLines, endLines, List.flatMap_cons, List.append_assoc, List.singleton_append]

/-- A fence without a name opens a block of code. -/
theorem readLeaf_fence (following : List Line) :
    readLeaf (BlockScan.flat blocks blank references) (Point.ofLine ⟨fence, ['\n']⟩ following) =
      (BlockScan.flat
          (.code (some [])
            (fencedLines (BlockScan.flat blocks false references) '`' 3 0 following).1 :: blocks)
          false references,
        (fencedLines (BlockScan.flat blocks false references) '`' 3 0 following).2) := by
  have hskip : (Cursor.start fence).skipUpTo 4 = (Cursor.start fence, 0) :=
    Cursor.skipUpTo_start indents_fence 4
  have hlevel : headingLevel? fence = none := by decide
  have hfence : fence? (fence ++ ['\n']) = some ('`', 3) := by decide
  have hmetadata : metadataMark? fence following = none := rfl
  have hrule : isThematicBreak fence = false := by decide
  have hinfo : unescape false (Text.dropEndWhile isSpace
      ((fence.drop 3 ++ ['\n']).dropWhile isLineBlank)) = [] := by
    rw [show Text.dropEndWhile isSpace ((fence.drop 3 ++ ['\n']).dropWhile isLineBlank) = [] by
      decide, unescape]
  rw [readLeaf]
  simp [Point.ofLine, hskip, hmetadata, hrule, hlevel, rawFrom, hfence, hinfo]
  rfl

/-- A line that is a fence begins a block of code, which goes on up to the next fence. -/
theorem readBlock_fence (bound : Nat) (following : List Line) :
    readBlock bound (BlockScan.flat blocks blank references) ⟨fence, ['\n']⟩ following =
      (BlockScan.flat
          (.code (some [])
            (fencedLines (BlockScan.flat blocks false references) '`' 3 0 following).1 :: blocks)
          false references,
        (fencedLines (BlockScan.flat blocks false references) '`' 3 0 following).2) := by
  have hopens : openContainers bound (BlockScan.flat blocks blank references)
      (Point.ofLine ⟨fence, ['\n']⟩ following) =
        (BlockScan.flat blocks blank references,
          .leaf (Point.ofLine ⟨fence, ['\n']⟩ following)) := by
    refine openContainers_of_opensNone bound _ ?_
    rw [Point.ofLine, Cursor.skipUpTo_start indents_fence]
    decide
  rw [readBlock_flat _ _ _ hopens, if_neg (by decide), readLeaf_fence]

/-- Whether a line can be a line of code behind a fence of backticks: it holds no backtick, no null
character and no character that ends a line. -/
def isCodeLine (line : List Char) : Bool :=
  isUnbroken line && !line.contains '`' && !line.contains '\x00'

/-- A line of code holds no backtick and no character that ends a line. -/
theorem not_mem_of_isCodeLine {line : List Char} (h : isCodeLine line = true) :
    '`' ∉ line ∧ '\r' ∉ line ∧ '\n' ∉ line := by
  simp only [isCodeLine, isUnbroken, Bool.and_eq_true, List.all_eq_true, decide_eq_true_eq,
    Bool.not_eq_true', List.contains_eq_mem, decide_eq_false_iff_not] at h
  exact ⟨h.1.2, fun hmem => (h.1.1 _ hmem).2 rfl, fun hmem => (h.1.1 _ hmem).1 rfl⟩

/-- A body of a fence, lines of code and a fence is one block of code. -/
theorem events_fenced {code : List (List Char)} (hcode : ∀ line ∈ code, isCodeLine line = true) :
    (Document.read (joinLines (fence :: (code ++ [fence])))).events =
      Event.element (.code (some []))
        (if (endLines code).isEmpty then [] else [.text (endLines code)]) := by
  have hlines : Line.split (joinLines (fence :: (code ++ [fence]))) =
      ⟨fence, ['\n']⟩ :: (code.map (⟨·, ['\n']⟩) ++ [⟨fence, []⟩]) := by
    rw [Line.split_joinLines, List.dropWhile_cons_of_neg (by decide), ← List.cons_append,
      Line.ofTexts_concat, if_neg (by decide), List.map_cons, List.cons_append]
    intro line hline
    rw [List.mem_cons, List.mem_append, List.mem_singleton] at hline
    rcases hline with rfl | hline | rfl
    · decide
    · have hunbroken := hcode line hline
      rw [isCodeLine, Bool.and_eq_true, Bool.and_eq_true] at hunbroken
      exact hunbroken.1.1
    · decide
  have hfenced (references : References) :=
    fencedLines_code [] false references
      (fun line hline => ⟨(not_mem_of_isCodeLine (hcode line hline)).1,
        (not_mem_of_isCodeLine (hcode line hline)).2.1⟩) [] []
  have hblocks (bound : Nat) (references : References) :
      readBlocks bound (BlockScan.flat [] false references)
          (⟨fence, ['\n']⟩ :: (code.map (⟨·, ['\n']⟩) ++ [⟨fence, []⟩])) =
        BlockScan.flat [.code (some []) (endLines code)] false references := by
    have hblock := readBlock_fence [] false references bound
      (code.map (⟨·, ['\n']⟩) ++ [⟨fence, []⟩])
    rw [hfenced] at hblock
    rw [readBlocks_cons hblock (Nat.zero_le _), readBlocks]
  rw [read_of_flat (hlines ▸ hblocks _ _)]
  exact List.append_nil _

end Folio.Markdown
