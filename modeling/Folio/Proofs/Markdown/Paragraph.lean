import Folio.Markdown.Event
import Folio.Proofs.Markdown.Flat
import Folio.Proofs.Text.Trim

/-!
# Paragraphs of plain lines

A line of letters and spaces has no marks. It is one token, and the tokens of such lines are read as
their texts with a break between each two.

A letter begins no marker, so a line that begins with one is the first line of a paragraph or goes
on with it. A blank line ends the paragraph, and a line of hyphens makes a heading of it.
-/

namespace Folio.Markdown

/-- A text of letters and spaces that begins and ends with a letter. -/
structure IsPlain (s : List Char) : Prop where
  chars : ∀ c ∈ s, c.isAlpha = true ∨ c = ' '
  first : ∃ c rest, s = c :: rest ∧ c.isAlpha = true
  last : ∀ c ∈ s.getLast?, c.isAlpha = true

/-- A letter is no character that is not one. -/
theorem ne_of_isAlpha {c d : Char} (hc : c.isAlpha = true) (hd : d.isAlpha = false) : c ≠ d := by
  rintro rfl
  exact absurd (hd.symm.trans hc) Bool.false_ne_true

/-- A letter is not blank. -/
theorem not_isLineBlank_of_isAlpha {c : Char} (h : c.isAlpha = true) : isLineBlank c = false := by
  have hne {d : Char} (hd : d.isAlpha = false) : decide (c = d) = false :=
    decide_eq_false (ne_of_isAlpha h hd)
  rw [isLineBlank, hne (by decide), hne (by decide), hne (by decide), hne (by decide)]
  rfl

namespace IsPlain

variable {s : List Char} (h : IsPlain s)
include h

/-- A plain text is not empty. -/
theorem ne_nil : s ≠ [] := by
  obtain ⟨c, rest, rfl, -⟩ := h.first
  exact List.cons_ne_nil c rest

/-- No mark is in a plain text. -/
theorem not_mem {d : Char} (hd : d.isAlpha = false ∧ d ≠ ' ') : d ∉ s := fun hmem =>
  (h.chars d hmem).elim (fun halpha => ne_of_isAlpha halpha hd.1 rfl) hd.2

/-- No blank ends a plain text. -/
theorem dropEndWhile_isLineBlank : Text.dropEndWhile isLineBlank s = s :=
  Text.dropEndWhile_eq_self fun c hc => not_isLineBlank_of_isAlpha (h.last c hc)

/-- No mark ends a plain text. -/
theorem head?_reverse_ne {d : Char} (hd : d.isAlpha = false) : s.reverse.head? ≠ some d := by
  rw [List.head?_reverse]
  exact fun hlast => ne_of_isAlpha (h.last d hlast) hd rfl

end IsPlain

/-- A letter or a space is literal text. -/
theorem step_of_plain (scan : TokenScan) {c : Char} (h : c.isAlpha = true ∨ c = ' ')
    (rest beyond : List Char) : scan.step c rest beyond = (scan.keep c, 0, true) := by
  have hne {d : Char} (hd : d.isAlpha = false ∧ d ≠ ' ') : c ≠ d := by
    rintro rfl
    exact h.elim (fun halpha => ne_of_isAlpha halpha hd.1 rfl) hd.2
  rw [TokenScan.step]
  · have hstar : c ≠ '*' := hne (by decide)
    have hscore : c ≠ '_' := hne (by decide)
    have htilde : c ≠ '~' := hne (by decide)
    have hcaret : c ≠ '^' := hne (by decide)
    have hsingle : c ≠ '\'' := hne (by decide)
    have hdouble : c ≠ '"' := hne (by decide)
    simp [hstar, hscore, htilde, hcaret, hsingle, hdouble]
  all_goals exact hne (by decide)

/-- Letters and spaces are all literal text. -/
theorem read_of_plain (scan : TokenScan) {s : List Char}
    (h : ∀ c ∈ s, c.isAlpha = true ∨ c = ' ') (beyond : List Char) :
    ∃ before, scan.read 0 true beyond s =
      { scan with pending := s.reverse ++ scan.pending, before } := by
  induction s generalizing scan with
  | nil => exact ⟨scan.before, rfl⟩
  | cons c s ih =>
    rw [List.forall_mem_cons] at h
    obtain ⟨before, hread⟩ := ih { scan.keep c with before := some c } h.2
    refine ⟨before, ?_⟩
    rw [TokenScan.read, step_of_plain scan h.1, List.reverse_cons, List.append_assoc]
    exact hread

/-- The token of a literal text. -/
def Token.ofText (s : List Char) : Token := ⟨Source.ofText s, .text false⟩

/-- Literal text that is pending becomes a token. -/
theorem flush_of_pending {pending : List Char} (h : pending ≠ []) (tokens : List Token)
    (before : Option Char) (braces : Braces) (inTable : Bool) :
    TokenScan.flush ⟨tokens, pending, false, before, braces, inTable⟩ =
      ⟨.ofText pending.reverse :: tokens, [], false, before, braces, inTable⟩ := by
  cases pending with
  | nil => exact absurd rfl h
  | cons c pending => rfl

/-- A plain text is one token. -/
theorem tokenizeLine_of_plain {s : List Char} (h : IsPlain s) (beyond : List Char)
    (braces : Braces) : tokenizeLine false s beyond braces = ([.ofText s], braces) := by
  obtain ⟨before, hread⟩ := read_of_plain ⟨[], [], false, none, braces, false⟩ h.chars beyond
  rw [List.append_nil] at hread
  rw [tokenizeLine, hread, flush_of_pending (List.reverse_ne_nil_iff.mpr h.ne_nil),
    List.reverse_reverse]
  rfl

/-- No break but that of a line end is at the end of a plain text. -/
theorem splitBreak_of_plain {s : List Char} (h : IsPlain s) :
    splitBreak s = (s, [], .softBreak) := by
  have hback : (s.reverse.takeWhile (· = '\\')).length = 0 := by
    cases hs : s.reverse with
    | nil => rfl
    | cons c rest =>
      have hc : c ≠ '\\' := fun hc =>
        h.head?_reverse_ne (d := '\\') (by decide) (by rw [hs, hc, List.head?_cons])
      simp [hc]
  rw [splitBreak, hback, h.dropEndWhile_isLineBlank]
  simp

/-- Tokens of literal texts and of line ends. -/
def Token.isPlain (token : Token) : Bool := token.kind = .text false || token.kind = .softBreak

/-- What a plain token is read as. -/
def Token.element (token : Token) : Inline :=
  if token.kind = .softBreak then .softBreak else .text token.literal

/-- The elements of plain lines: their texts, with a break between each two. -/
def lineElements : List (List Char) → List Inline
  | [] => []
  | [s] => [.text s]
  | s :: next :: rest => .text s :: .softBreak :: lineElements (next :: rest)

/-- A literal text stands for itself. -/
theorem element_ofText (s : List Char) : (Token.ofText s).element = .text s := by
  have hchars : Source.chars (Source.ofText s) = s := by
    rw [Source.chars, Source.ofText, List.map_map]
    exact List.map_id s
  exact congrArg Inline.text hchars

/-- The tokens of plain lines are plain, and are read as the texts with breaks between them. -/
theorem tokenize_of_plain (braces : Braces) {segments : List Segment}
    (h : ∀ segment ∈ segments, IsPlain segment.text) :
    (∀ token ∈ tokenize braces [] segments, token.isPlain = true) ∧
      (tokenize braces [] segments).map Token.element = lineElements (segments.map (·.text)) := by
  induction segments with
  | nil => exact ⟨List.forall_mem_nil _, rfl⟩
  | cons segment segments ih =>
    rw [List.forall_mem_cons] at h
    cases segments with
    | nil =>
      have htokens : tokenize braces [] [segment] = [.ofText segment.text] := by
        rw [tokenize, h.1.dropEndWhile_isLineBlank, tokenizeLine_of_plain h.1]
      rw [htokens, List.map_singleton, element_ofText, List.forall_mem_singleton]
      exact ⟨rfl, rfl⟩
    | cons next rest =>
      have htokens : tokenize braces [] (segment :: next :: rest) =
          .ofText segment.text :: ⟨Source.ofText segment.ending ++ next.lead, .softBreak⟩ ::
            tokenize braces [] (next :: rest) := by
        rw [tokenize, splitBreak_of_plain h.1]
        simp only [tokenizeLine_of_plain h.1]
        rfl
      obtain ⟨hplain, helements⟩ := ih h.2
      rw [htokens, List.map_cons, List.map_cons, helements, element_ofText, List.forall_mem_cons,
        List.forall_mem_cons]
      exact ⟨⟨rfl, rfl, hplain⟩, rfl⟩

/-- A plain token is read as its piece alone. -/
theorem step_of_isPlain {token : Token} (h : token.isPlain = true) (scan : LinkScan) (rest : Rest) :
    scan.step false token rest = (scan.push (Piece.ofToken token), rest) := by
  rw [Token.isPlain, Bool.or_eq_true, decide_eq_true_eq, decide_eq_true_eq] at h
  rcases h with h | h <;> rw [LinkScan.step, h]

/-- Plain tokens are read as their pieces. -/
theorem run_of_isPlain (scan : LinkScan) (rest : Rest)
    (h : ∀ token ∈ rest.tokens, token.isPlain = true) :
    LinkScan.run false rest.tokens.length scan rest =
      { scan with pieces := (rest.tokens.map Piece.ofToken).reverse ++ scan.pieces } := by
  obtain ⟨tokens, source⟩ := rest
  induction tokens generalizing scan source with
  | nil => rfl
  | cons token tokens ih =>
    rw [List.forall_mem_cons] at h
    rw [List.length_cons, LinkScan.run]
    simp only [step_of_isPlain h.1]
    rw [Rest.after, ih _ _ h.2, List.map_cons, List.reverse_cons, List.append_assoc]
    rfl

/-- The piece of a plain token is its element. -/
theorem kind_ofToken {token : Token} (h : token.isPlain = true) :
    (Piece.ofToken token).kind = .done token.element := by
  obtain ⟨source, kind⟩ := token
  rw [Token.isPlain, Bool.or_eq_true, decide_eq_true_eq, decide_eq_true_eq] at h
  rcases h with rfl | rfl <;> rfl

/-- There are no quotation marks among elements. -/
theorem curlQuotes_done {pieces : List Piece} {elements : List Inline}
    (h : pieces.map Piece.kind = elements.map .done) (singleOpen doubleOpen : Bool) :
    curlQuotes singleOpen doubleOpen pieces = pieces := by
  induction pieces generalizing elements with
  | nil => rfl
  | cons piece pieces ih =>
    obtain ⟨element, elements, rfl, hpiece, hpieces⟩ := List.map_eq_cons_iff.mp h.symm
    rw [curlQuotes, ← hpiece]
    simp only [ih hpieces.symm]

/-- Elements are added one after the other. -/
theorem stress_run_done {pieces : List Piece} {elements : List Inline}
    (h : pieces.map Piece.kind = elements.map .done) (outside : List Inline) :
    StressScan.run ⟨outside, [], 0⟩ pieces = ⟨elements.reverse ++ outside, [], 0⟩ := by
  induction pieces generalizing elements outside with
  | nil =>
    obtain rfl : elements = [] := List.map_eq_nil_iff.mp h.symm
    rfl
  | cons piece pieces ih =>
    obtain ⟨element, elements, rfl, hpiece, hpieces⟩ := List.map_eq_cons_iff.mp h.symm
    rw [StressScan.run, StressScan.step, ← hpiece]
    simp only [StressScan.add, ih hpieces.symm, List.reverse_cons, List.append_assoc]

/-- Pieces that are elements already are these elements. -/
theorem ofPieces_done {pieces : List Piece} {elements : List Inline}
    (h : pieces.map Piece.kind = elements.map .done) : Inline.ofPieces pieces = elements := by
  rw [Inline.ofPieces, curlQuotes_done h, stress_run_done h, List.append_nil]
  exact List.reverse_reverse elements

/-- Plain lines are their texts with breaks between them. -/
theorem ofTokens_of_plain (braces : Braces) {segments : List Segment}
    (h : ∀ segment ∈ segments, IsPlain segment.text) (references : References) :
    Inline.ofTokens false (tokenize braces [] segments) references =
      (lineElements (segments.map (·.text)), references) := by
  obtain ⟨hplain, helements⟩ := tokenize_of_plain braces h
  have hkinds : ((tokenize braces [] segments).map Piece.ofToken).map Piece.kind =
      (lineElements (segments.map (·.text))).map .done := by
    rw [← helements, List.map_map, List.map_map]
    exact List.map_congr_left fun token htoken => kind_ofToken (hplain token htoken)
  have hrun := run_of_isPlain ⟨references, [], [], []⟩ (.ofTokens (tokenize braces [] segments))
    hplain
  rw [Rest.ofTokens] at hrun
  rw [Inline.ofTokens, Rest.ofTokens, hrun, List.append_nil, List.reverse_reverse,
    ofPieces_done hkinds]

section Letter

variable {c : Char} (h : c.isAlpha = true) (rest : List Char)
include h

/-- No letter is a mark. -/
theorem countLeading_of_isAlpha {d : Char} (hd : d.isAlpha = false) :
    countLeading d (c :: rest) = 0 := by
  simp [countLeading, ne_of_isAlpha h hd]

/-- A letter begins no thematic break. -/
theorem isThematicBreak_of_isAlpha : isThematicBreak (c :: rest) = false := by
  have hstar : c ≠ '*' := ne_of_isAlpha h (by decide)
  have hhyphen : c ≠ '-' := ne_of_isAlpha h (by decide)
  have hscore : c ≠ '_' := ne_of_isAlpha h (by decide)
  simp [isThematicBreak, breakObstacle?, hstar, hhyphen, hscore]

/-- A letter begins no heading. -/
theorem headingLevel?_of_isAlpha : headingLevel? (c :: rest) = none := by
  rw [headingLevel?, countLeading_of_isAlpha h rest (by decide)]
  rfl

/-- A letter begins no underline. -/
theorem underlineLevel?_of_isAlpha : underlineLevel? (c :: rest) = none := by
  rw [underlineLevel?]
  · exact fun _ heq => ne_of_isAlpha h (by decide) (List.cons.inj heq).1
  · exact fun _ heq => ne_of_isAlpha h (by decide) (List.cons.inj heq).1

/-- A letter begins no fence. -/
theorem fence?_of_isAlpha : fence? (c :: rest) = none := by
  have htick : c ≠ '`' := ne_of_isAlpha h (by decide)
  have htilde : c ≠ '~' := ne_of_isAlpha h (by decide)
  simp [fence?, htick, htilde]

/-- A line that begins with a letter is no fence. -/
theorem fence?_rawFrom_of_isAlpha (ending : List Char) (following : List Line) :
    fence? (rawFrom (c :: rest) ending following).1 = none := by
  rw [rawFrom]
  split <;> exact fence?_of_isAlpha h _

/-- A letter begins no metadata block. -/
theorem metadataMark?_of_isAlpha (following : List Line) :
    metadataMark? (c :: rest) following = none := by
  have hhyphen : c ≠ '-' := ne_of_isAlpha h (by decide)
  have hplus : c ≠ '+' := ne_of_isAlpha h (by decide)
  simp [metadataMark?, hhyphen, hplus]

/-- A letter ends no metadata block. -/
theorem closesMetadata_of_isAlpha : closesMetadata '-' (c :: rest) = false := by
  rw [closesMetadata, countLeading_of_isAlpha h rest (by decide),
    countLeading_of_isAlpha h rest (by decide)]
  rfl

/-- A letter is none of the characters that begin a marker of a container. -/
theorem opensNone_of_isAlpha : opensNone (c :: rest) = true := by
  have hmarker : ['[', '-', '+', '*', ':', '>'].contains c = false := by
    rw [List.contains_eq_mem, decide_eq_false_iff_not]
    intro hmem
    have hnone : (['[', '-', '+', '*', ':', '>'].all fun d => !d.isAlpha) = true := by decide
    have hc := List.all_eq_true.mp hnone c hmem
    rw [h] at hc
    cases hc
  have hdigit : c.isDigit = false := by
    by_contra hdigit
    rw [Bool.not_eq_false] at hdigit
    delta Char.isAlpha Char.isUpper Char.isLower Char.isDigit at h hdigit
    simp [UInt32.le_iff_toNat_le] at h hdigit
    omega
  rw [opensNone, hmarker, hdigit]
  rfl

/-- A letter begins no mark of an item. -/
theorem interrupting?_of_isAlpha : ItemMark.interrupting? (c :: rest) = none := by
  have hopens := opensNone_of_isAlpha h rest
  simp only [opensNone, Bool.and_eq_true, Bool.not_eq_true', List.contains_cons,
    Bool.or_eq_false_iff, beq_eq_false_iff_ne] at hopens
  simp [ItemMark.interrupting?, ItemMark.read?, itemNumber?, hopens]

/-- A letter does not indent a line. -/
theorem indents_of_isAlpha : ∀ d ∈ (c :: rest).head?, Cursor.indents d = false := by
  have hspace : c ≠ ' ' := ne_of_isAlpha h (by decide)
  have htab : c ≠ '\t' := ne_of_isAlpha h (by decide)
  simp [Cursor.indents, hspace, htab]

/-- A letter begins no footnote. -/
theorem startsFootnote_of_isAlpha : startsFootnote (c :: rest) = false := by
  rw [startsFootnote]
  exact fun _ heq => ne_of_isAlpha h (by decide) (List.cons.inj heq).1

/-- A line that begins with a letter goes on with the paragraph in front of it. -/
theorem interrupts_of_isAlpha (around : Surroundings) (ending : List Char)
    (following : List Line) : interrupts around (c :: rest) ending following = false := by
  have hquote : c ≠ '>' := ne_of_isAlpha h (by decide)
  have hcolon : c ≠ ':' := ne_of_isAlpha h (by decide)
  have hpipe : c ≠ '|' := ne_of_isAlpha h (by decide)
  have hangle : c ≠ '<' := ne_of_isAlpha h (by decide)
  simp [interrupts, isThematicBreak_of_isAlpha h, headingLevel?_of_isAlpha h,
    fence?_rawFrom_of_isAlpha h, interrupting?_of_isAlpha h, startsFootnote_of_isAlpha h, hquote,
    hcolon, hpipe, hangle]

/-- A letter begins no definition of a link. -/
theorem linkDefinition?_of_isAlpha (role : Role) (source : Source) :
    linkDefinition? (⟨c, role⟩ :: source) = none := by
  have hbracket : c ≠ '[' := ne_of_isAlpha h (by decide)
  simp [linkDefinition?, hbracket]

/-- A line that begins with a letter is the first line of a paragraph. -/
theorem readText_of_isAlpha (scan : BlockScan) (marks ending : List Char) (following : List Line) :
    readText scan marks (c :: rest) ending following =
      readParagraph scan none marks (c :: rest) ending following := by
  have hsource : ∃ source, continuation scan (c :: rest) ending following =
      ⟨c, .text⟩ :: source := by
    cases following with
    | nil => exact ⟨_, rfl⟩
    | cons next following =>
      simp only [continuation]
      split
      · exact ⟨_, rfl⟩
      · exact ⟨_, rfl⟩
  obtain ⟨source, hsource⟩ := hsource
  rw [readText, hsource, readDefinitions, linkDefinition?_of_isAlpha h]

end Letter

variable (blocks : List Block) (blank : Bool) (references : References)

/-- A leaf that begins with a letter is a paragraph. -/
theorem readLeaf_of_isAlpha {c : Char} (h : c.isAlpha = true) (rest ending : List Char)
    (following : List Line) :
    readLeaf (BlockScan.flat blocks blank references)
        (Point.ofLine ⟨c :: rest, ending⟩ following) =
      readParagraph (BlockScan.flat blocks blank references) none [] (c :: rest) ending
        following := by
  have hskip : (Cursor.start (c :: rest)).skipUpTo 4 = (Cursor.start (c :: rest), 0) :=
    Cursor.skipUpTo_start (indents_of_isAlpha h rest) 4
  have hangle : c ≠ '<' := ne_of_isAlpha h (by decide)
  rw [readLeaf]
  simp [Point.ofLine, Point.marks, hskip, metadataMark?_of_isAlpha h, hangle,
    isThematicBreak_of_isAlpha h, headingLevel?_of_isAlpha h, fence?_rawFrom_of_isAlpha h,
    readText_of_isAlpha h]

/-- A block of a line that begins with a letter is a paragraph. -/
theorem readBlock_of_isAlpha (bound : Nat) {c : Char} (h : c.isAlpha = true)
    (rest ending : List Char) (following : List Line) :
    readBlock bound (BlockScan.flat blocks blank references) ⟨c :: rest, ending⟩ following =
      readParagraph (BlockScan.flat blocks blank references) none [] (c :: rest) ending
        following := by
  have hskip : (Cursor.start (c :: rest)).skipUpTo 4 = (Cursor.start (c :: rest), 0) :=
    Cursor.skipUpTo_start (indents_of_isAlpha h rest) 4
  have hopens : openContainers bound (BlockScan.flat blocks blank references)
      (Point.ofLine ⟨c :: rest, ending⟩ following) =
        (BlockScan.flat blocks blank references,
          .leaf (Point.ofLine ⟨c :: rest, ending⟩ following)) := by
    refine openContainers_of_opensNone bound _ ?_
    rw [Point.ofLine, hskip]
    exact opensNone_of_isAlpha h rest
  have hblank : ¬blankRest (c :: rest) = true := by
    simp [blankRest, not_isLineBlank_of_isAlpha h]
  rw [readBlock_flat _ _ _ hopens, if_neg hblank, readLeaf_of_isAlpha blocks blank references h]

/-- The number of cells of a line without pipes is not known. -/
theorem headerColumns?_of_not_mem {s : List Char} (h : '|' ∉ s) : headerColumns? s = none := by
  have hpipes (count : Nat) (afterLast : List Char) :
      pipes s count afterLast = (count, afterLast) := by
    fun_induction pipes s count afterLast with
    | case1 => rfl
    | case2 rest count afterLast ih => simp at h
    | case3 rest count afterLast ih => simp at h
    | case4 c rest count afterLast hescape hpipe ih =>
      exact ih (List.not_mem_of_not_mem_cons h)
  rw [headerColumns?, hpipes]
  rfl

/-- A paragraph whose first line is plain is no table. -/
theorem readParagraph_of_plain {s : List Char} (h : IsPlain s) (ending : List Char)
    (following : List Line) :
    readParagraph (BlockScan.flat blocks blank references) none [] s ending following =
      (BlockScan.flat
        (paragraphBlock .loose none
          (⟨[], [], s, ending⟩ ::
            (paragraphLines (BlockScan.flat blocks false references) following).1)
          (paragraphLines (BlockScan.flat blocks false references) following).2.1 :: blocks)
        false references,
        (paragraphLines (BlockScan.flat blocks false references) following).2.2) := by
  have hpipe : headerColumns? s = none :=
    headerColumns?_of_not_mem (h.not_mem (by decide))
  have htable (second : List Char) : tableHead? s second = none := by
    simp [tableHead?, hpipe]
  cases following with
  | nil => simp [readParagraph]
  | cons next following => simp [readParagraph, htable]

/-- A blank line ends a paragraph. -/
theorem paragraphLines_of_indents {line : Line}
    (h : ∀ c ∈ line.text, Cursor.indents c = true) (following : List Line) :
    paragraphLines (BlockScan.flat blocks blank references) (line :: following) =
      ([], .plain, line :: following) := by
  have hend : ((Cursor.start line.text).skip 4).1.skipAll.atEnd = true :=
    Cursor.atEnd_skipAll fun c hc => h c ((Cursor.rest_skip_start_suffix line.text 4).subset hc)
  rw [paragraphLines]
  rcases Cursor.skip_start_of_indents h 4 with hmissing | hrest
  · simp [hmissing, hend]
  · have hunderline : underlineLevel? [] = none := rfl
    simp [hrest, hend, hunderline, interrupts]

/-- Hyphens make a heading of a paragraph. -/
theorem paragraphLines_hyphens (ending : List Char) (following : List Line) :
    paragraphLines (BlockScan.flat blocks blank references)
        (⟨['-', '-', '-'], ending⟩ :: following) =
      ([], .underlined 2, following) := by
  have hskip : (Cursor.start ['-', '-', '-']).skip 4 = (Cursor.start ['-', '-', '-'], 4) := rfl
  have hunderline : underlineLevel? ['-', '-', '-'] = some 2 := by decide
  have hinside :
      Surroundings.inside ⟨BlockScan.flat blocks blank references, 1, true, false⟩ = true := rfl
  rw [paragraphLines]
  simp [hskip, hunderline, hinside]

/-- A plain line goes on with a paragraph. -/
theorem paragraphLines_of_isAlpha {c : Char} (h : c.isAlpha = true) (rest ending : List Char)
    (following : List Line) :
    paragraphLines (BlockScan.flat blocks blank references) (⟨c :: rest, ending⟩ :: following) =
      (⟨[], [], c :: rest, ending⟩ ::
          (paragraphLines (BlockScan.flat blocks blank references) following).1,
        (paragraphLines (BlockScan.flat blocks blank references) following).2) := by
  have hskip : (Cursor.start (c :: rest)).skip 4 = (Cursor.start (c :: rest), 4) :=
    Cursor.skip_start (indents_of_isAlpha h rest) 4
  have hall : (Cursor.start (c :: rest)).skipAll = Cursor.start (c :: rest) :=
    Cursor.skipAll_start (indents_of_isAlpha h rest)
  rw [paragraphLines]
  simp [hskip, hall, underlineLevel?_of_isAlpha h, interrupts_of_isAlpha h, Cursor.atEnd]

/-- No braces end a plain text. -/
theorem HeadingAttributes.split_of_plain {s : List Char} (h : IsPlain s) :
    HeadingAttributes.split s = (s, none) := by
  have htrim : Text.dropEndWhile (fun c => c = '\n' || c = '\r' || c = ' ' || c = '\t') s = s := by
    refine Text.dropEndWhile_eq_self fun c hc => ?_
    have hne {d : Char} (hd : d.isAlpha = false) : c ≠ d := ne_of_isAlpha (h.last c hc) hd
    simp [hne]
  rw [HeadingAttributes.split, htrim]
  split
  · next rest hrest =>
    exact absurd (by rw [hrest, List.head?_cons]) (h.head?_reverse_ne (d := '}') (by decide))
  · rfl

/-- The events of plain lines. -/
def lineEvents (texts : List (List Char)) : List Event := Inline.listEvents (lineElements texts)

/-- The events of a text of plain lines. -/
theorem events_leaf_of_plain {segments : List Segment}
    (h : ∀ segment ∈ segments, IsPlain segment.text) (references : References) :
    Leaf.events ⟨none, tokenize Braces.empty [] segments⟩ references =
      (lineEvents (segments.map (·.text)), references) := by
  have htokens := ofTokens_of_plain Braces.empty h references
  simp only [Leaf.events, bind, StateT.bind, htokens]
  rfl

/-- The events of a paragraph of plain lines. -/
theorem events_paragraph_of_plain {segments : List Segment}
    (h : ∀ segment ∈ segments, IsPlain segment.text) (references : References) :
    (paragraphBlock .loose none segments .plain).events references =
      (Event.element .paragraph (lineEvents (segments.map (·.text))), references) := by
  rw [paragraphBlock, Block.events]
  simp only [bind, StateT.bind, events_leaf_of_plain h]
  rfl

/-- The events of underlined plain lines. -/
theorem events_underlined_of_plain {segments : List Segment} (hne : segments ≠ [])
    (h : ∀ segment ∈ segments, IsPlain segment.text) (level : Nat) (references : References) :
    (paragraphBlock .loose none segments (.underlined level)).events references =
      (Event.element (.heading level .empty) (lineEvents (segments.map (·.text))), references) := by
  have hlast := h _ (List.getLast_mem hne)
  rw [paragraphBlock, List.getLast?_eq_some_getLast hne]
  simp only [splitBreak_of_plain hlast, HeadingAttributes.split_of_plain hlast]
  rw [Block.events]
  simp only [Functor.map, StateT.map, events_leaf_of_plain h]
  rfl

end Folio.Markdown
