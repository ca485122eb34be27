import Folio.Proofs.Text.Trim
import Folio.Yaml.Scalar
import Mathlib.Data.List.Basic

/-!
# Scalars of one line

A text in double quotes on one line stands for itself, whatever it begins or ends with, as long as
it has neither a quote nor a backslash. A plain scalar is made of words with a space between any
two; it ends before a colon that separates a key from its value, and at the end of its line if the
next line is indented less.
-/

namespace Folio.Yaml

/-- A printable ASCII character that stands for itself within double quotes. -/
def isQuotable (c : Char) : Bool := 0x20 ≤ c.toNat && c.toNat ≤ 0x7E && c ≠ '"' && c ≠ '\\'

/-- What can stand in quotes is visible or a space. -/
theorem isVisible_of_isQuotable {c : Char} (h : isQuotable c = true) :
    c = ' ' ∨ Text.isVisible c = true := by
  simp only [isQuotable, Bool.and_eq_true, decide_eq_true_eq] at h
  by_cases hspace : c = ' '
  · exact Or.inl hspace
  · have hcode : c.toNat ≠ 32 := fun hcode => hspace (Char.toNat_inj.mp hcode)
    right
    simp only [Text.isVisible, Bool.and_eq_true, decide_eq_true_eq]
    omega

/-- The part of a quoted scalar that such a character is. -/
def Mark.ofQuotable (c : Char) : Mark := if c = ' ' then .blank c else .char c 1

/-- Such a character is read as itself. -/
theorem mark?_of_isQuotable {c : Char} (h : isQuotable c = true) (rest : List Char) :
    mark? false c rest = some (.ofQuotable c, 0) := by
  have hgap : isGap c = decide (c = ' ') := by
    have htab : c ≠ '\t' := by rintro rfl; revert h; decide
    simp [isGap, htab]
  have hbreak : isBreak c = false ∧ c ≠ '\r' := by
    have hfeed : c ≠ '\n' := by rintro rfl; revert h; decide
    have hreturn : c ≠ '\r' := by rintro rfl; revert h; decide
    simp [isBreak, hfeed, hreturn]
  have hescape : c ≠ '\\' := by rintro rfl; revert h; decide
  by_cases hblank : c = ' '
  · subst hblank
    rfl
  · simp [mark?, hgap, hblank, hbreak, hescape, Mark.ofQuotable]

/-- Such characters are read up to the closing quote. -/
theorem marks?_append {text : List Char} (h : ∀ c ∈ text, isQuotable c = true)
    (after : List Char) :
    marks? false (text ++ '"' :: after) = some (text.map .ofQuotable, after) := by
  induction text with
  | nil =>
    rw [List.nil_append, marks?]
    simp
  | cons c text ih =>
    obtain ⟨hc, htext⟩ := List.forall_mem_cons.mp h
    have hquote : c ≠ '"' := by rintro rfl; revert hc; decide
    rw [List.cons_append, marks?, mark?_of_isQuotable hc]
    simp only [hquote, Bool.false_eq_true, if_false, decide_false, List.drop_zero, ih htext,
      Option.map_some, List.map_cons]

/-- A blank within a line waits in the gap. -/
theorem Quoted.read_blank (indent : Int) (q : Quoted) (marks : List Mark) :
    Quoted.read indent q (.blank ' ' :: marks) =
      Quoted.read indent
        { q with gap := q.gap.addBlank ' ', column := q.column + 1, width := q.width + 1 }
        marks := by
  rw [read.eq_def]
  simp

/-- A character within a line is added to the text, behind the blanks that wait. -/
theorem Quoted.read_char (indent : Int) {q : Quoted} {blanks : List Char}
    (hgap : q.gap = .within blanks) (c : Char) (marks : List Mark) :
    Quoted.read indent q (.char c 1 :: marks) =
      Quoted.read indent
        ⟨c :: (blanks.reverse ++ q.text), .empty, q.column + 1, q.lines, q.width + 1⟩ marks := by
  rw [read.eq_def]
  simp [mayGoOn, flush, hgap, Gap.text]

/-- Within a line, characters are added to the text as they are. The induction is on the characters,
and blanks wait in the gap until a character or the end follows. -/
theorem Quoted.read_ofQuotable (indent : Int) (text : List Char) {q : Quoted} {blanks : List Char}
    (hgap : q.gap = .within blanks) :
    ∃ done, Quoted.read indent q (text.map .ofQuotable) = some done ∧
      done.text = text.reverse ++ blanks.reverse ++ q.text := by
  induction text generalizing q blanks with
  | nil =>
    refine ⟨q.flush, ?_, ?_⟩
    · rw [List.map_nil, read.eq_def]
      simp [mayGoOn, hgap]
    · rw [flush, hgap]
      rfl
  | cons c text ih =>
    rw [List.map_cons, Mark.ofQuotable]
    split
    case isTrue hblank =>
      subst hblank
      have hwaits : q.gap.addBlank ' ' = .within (blanks ++ [' ']) := by rw [hgap]; rfl
      obtain ⟨done, hread, htext⟩ :=
        ih (q := ⟨q.text, q.gap.addBlank ' ', q.column + 1, q.lines, q.width + 1⟩) hwaits
      refine ⟨done, ?_, ?_⟩
      · rw [read_blank, hread]
      · simpa using htext
    case isFalse =>
      obtain ⟨done, hread, htext⟩ :=
        ih (q := ⟨c :: (blanks.reverse ++ q.text), .empty, q.column + 1, q.lines, q.width + 1⟩)
          (show Gap.empty = .within [] from rfl)
      refine ⟨done, ?_, ?_⟩
      · rw [read_char indent hgap, hread]
      · simpa using htext

/-- A text in double quotes is read as itself. -/
theorem quoted?_append {text : List Char} (h : ∀ c ∈ text, isQuotable c = true) (indent : Int)
    {c : Cursor} {after : List Char} (hc : c.rest = '"' :: (text ++ '"' :: after)) :
    ∃ next, quoted? false indent c = some (text, next) ∧ next.rest = after := by
  obtain ⟨done, hread, htext⟩ :=
    Quoted.read_ofQuotable indent text (q := ⟨[], .empty, c.column + 1, 0, 1⟩) rfl
  refine ⟨⟨after, c.offset + done.width + 1, c.line + done.lines, done.column + 1, false⟩, ?_, rfl⟩
  rw [quoted?, hc, List.drop_one, List.tail_cons, marks?_append h]
  simp [hread, htext]

/-- A word of a plain scalar: it begins with a letter or a digit, has no blanks and ends with no
colon. -/
structure IsPlainWord (word : List Char) : Prop where
  first : ∃ c rest, word = c :: rest ∧ c.isAlphanum = true
  solid : ∀ c ∈ word, isSpace c = false
  last : word.getLast? ≠ some ':'

/-- A letter or a digit is none of the characters that are neither. -/
theorem ne_of_isAlphanum {c : Char} (hc : c.isAlphanum = true) (d : Char)
    (hd : d.isAlphanum = false) : c ≠ d := by
  rintro rfl
  rw [hc] at hd
  cases hd

/-- A visible character is no white space. -/
theorem not_isSpace_of_isVisible {c : Char} (h : Text.isVisible c = true) : isSpace c = false := by
  have hne (d : Char) (hd : Text.isVisible d = false) : c ≠ d := by
    rintro rfl
    rw [h] at hd
    cases hd
  simp [isSpace, isGap, isBreak, hne ' ' rfl, hne '\t' rfl, hne '\n' rfl, hne '\r' rfl]

/-- Two words with a visible character between them are one. -/
theorem IsPlainWord.append_cons {word second : List Char} (hword : IsPlainWord word) {c : Char}
    (hc : Text.isVisible c = true) (hsecond : IsPlainWord second) :
    IsPlainWord (word ++ c :: second) where
  first := by
    obtain ⟨d, rest, rfl, hd⟩ := hword.first
    exact ⟨d, _, rfl, hd⟩
  solid d hd := by
    rcases List.mem_append.mp hd with hd | hd
    · exact hword.solid d hd
    · rcases List.mem_cons.mp hd with rfl | hd
      · exact not_isSpace_of_isVisible hc
      · exact hsecond.solid d hd
  last := by
    obtain ⟨d, rest, hrest, -⟩ := hsecond.first
    have hlast := hsecond.last
    rw [hrest] at hlast ⊢
    rw [List.getLast?_append, List.getLast?_cons_cons]
    simpa using hlast

/-- Text without blanks is read as a whole if it ends with no colon, and what follows is no text. -/
theorem plainRun_append {word after : List Char} (hsolid : ∀ c ∈ word, isSpace c = false)
    (hlast : word.getLast? ≠ some ':') (hafter : plainRun false after = []) :
    plainRun false (word ++ after) = word := by
  induction word with
  | nil => exact hafter
  | cons c word ih =>
    obtain ⟨hc, hword⟩ := List.forall_mem_cons.mp hsolid
    have hplain : isPlain false c (word ++ after) = true := by
      by_cases hcolon : c = ':'
      · cases word with
        | nil => exact absurd (by rw [hcolon]; rfl) hlast
        | cons d word =>
          have hd := (List.forall_mem_cons.mp hword).1
          subst hcolon
          simp [isPlain, hc, spaceNext, hd]
      · simp [isPlain, hc, hcolon]
    have hrest : word.getLast? ≠ some ':' := by
      cases word with
      | nil => simp
      | cons d word => rwa [List.getLast?_cons_cons] at hlast
    rw [List.cons_append, plainRun, if_pos hplain, ih hword hrest]

/-- Where a letter or a digit stands no document starts or ends. -/
theorem Cursor.atBoundary_of_isAlphanum {c : Cursor} {d : Char} {rest : List Char}
    (hc : c.rest = d :: rest) (hd : d.isAlphanum = true) : c.atBoundary = false := by
  have hdash := ne_of_isAlphanum hd '-' rfl
  have hdot := ne_of_isAlphanum hd '.' rfl
  rw [atBoundary, atMarker.eq_def, atMarker.eq_def, hc]
  rcases rest with _ | ⟨e, _ | ⟨f, rest⟩⟩ <;> simp [hdash, hdot]

/-- Where the text ends or a character that is not blank stands, there is nothing to pass. -/
theorem plainGap?_of_solid (indent : Int) (fuel : Nat) (gap : Gap) {c : Cursor}
    (hc : ∀ d ∈ c.rest.head?, isSpace d = false) : plainGap? indent fuel gap c = some (gap, c) := by
  obtain ⟨rest, offset, line, column, fresh⟩ := c
  cases fuel with
  | zero => rfl
  | succ fuel =>
    cases rest with
    | nil => rfl
    | cons d rest =>
      have hd : isSpace d = false := hc d rfl
      rw [isSpace, Bool.or_eq_false_iff] at hd
      simp [plainGap?, hd.1, hd.2]

/-- A blank within a line is passed. -/
theorem plainGap?_blank (indent : Int) (fuel : Nat) (gap : Gap) {c : Cursor} {rest : List Char}
    (hc : c.rest = ' ' :: rest) (hfresh : c.fresh = false) :
    plainGap? indent (fuel + 1) gap c = plainGap? indent fuel (gap.addBlank ' ') (c.pass 1) := by
  obtain ⟨_, offset, line, column, fresh⟩ := c
  subst hc hfresh
  rfl

/-- The end of a line is passed. -/
theorem plainGap?_break (indent : Int) (fuel : Nat) (gap : Gap) {c : Cursor} {rest : List Char}
    (hc : c.rest = '\n' :: rest) :
    ∃ wider, plainGap? indent (fuel + 1) gap c = plainGap? indent fuel wider c.passBreak := by
  obtain ⟨_, offset, line, column, fresh⟩ := c
  subst hc
  exact ⟨_, rfl⟩

/-- A word is added to a plain scalar, behind the blanks in front of it, and what follows the word
decides whether the scalar goes on. -/
theorem plainParts?_word {word after blanks : List Char} (hword : IsPlainWord word)
    (hafter : plainRun false after = []) (indent : Int) (fuel : Nat) (text : List Char) {c : Cursor}
    (hc : c.rest = word ++ after) :
    plainParts? false indent (fuel + 1) text (.within blanks) c =
      match (c.passSolid word.length).rest with
      | [] => some (text ++ blanks ++ word, c.passSolid word.length)
      | d :: _ =>
        if !isSpace d then some (text ++ blanks ++ word, c.passSolid word.length)
        else
          match plainGap? indent ((c.passSolid word.length).rest.length + 1) .empty
              (c.passSolid word.length) with
          | none => none
          | some (gap, next) =>
            if next.column < indent then some (text ++ blanks ++ word, next)
            else plainParts? false indent fuel (text ++ blanks ++ word) gap next := by
  have hrun := plainRun_append hword.solid hword.last hafter
  obtain ⟨first, rest, rfl, hfirst⟩ := hword.first
  have hboundary : c.atBoundary = false := Cursor.atBoundary_of_isAlphanum (hc.trans rfl) hfirst
  have hcomment : first ≠ '#' := ne_of_isAlphanum hfirst '#' rfl
  rw [← hc] at hrun
  rw [plainParts?, hboundary, hrun]
  simp only [hc, List.cons_append, List.head?_cons, Option.some.injEq, hcomment,
    decide_false, Bool.or_false, Bool.false_and, Bool.false_eq_true, if_false, List.isEmpty_cons,
    Gap.text, Bool.not_false, Bool.true_and, decide_eq_true_eq]
  refine if_neg ?_
  split <;> decide

/-- The rest behind a word. -/
theorem Cursor.rest_passSolid {c : Cursor} {word after : List Char}
    (hc : c.rest = word ++ after) : (c.passSolid word.length).rest = after := by
  rw [passSolid, pass, hc, List.drop_left]

/-- Text that begins with a blank goes on with no word. -/
theorem plainRun_of_isSpace {d : Char} (hd : isSpace d = true) (rest : List Char) :
    plainRun false (d :: rest) = [] := by
  simp [plainRun, isPlain, hd]

/-- A word is a plain scalar if a character follows that is neither blank nor part of it. -/
theorem plain?_word {word after : List Char} (hword : IsPlainWord word)
    (hafter : plainRun false after = []) (hsolid : ∀ d ∈ after.head?, isSpace d = false)
    (indent : Int) {c : Cursor} (hc : c.rest = word ++ after) :
    plain? false indent c = some (word, c.passSolid word.length) := by
  have hrest := Cursor.rest_passSolid hc
  have hparts : plainParts? false indent (c.rest.length + 1) [] .empty c =
      some (word, c.passSolid word.length) := by
    rw [Gap.empty, plainParts?_word hword hafter indent _ _ hc, hrest]
    cases after with
    | nil => rfl
    | cons d after =>
      have hd : isSpace d = false := hsolid d rfl
      simp [hd]
  obtain ⟨first, rest, rfl, -⟩ := hword.first
  rw [plain?, hparts]
  rfl

/-- What is left behind a line: nothing, or a line that is indented by a number of spaces and begins
with a character that is neither blank nor the mark of a comment. -/
inductive NextLine (indent : Nat) : List Char → List Char → Prop where
  | none : NextLine indent [] []
  | line {d : Char} (rest : List Char) (hspace : isSpace d = false) (hcomment : d ≠ '#') :
      NextLine indent ('\n' :: (List.replicate indent ' ' ++ d :: rest)) (d :: rest)

/-- A word at the end of its line ends a plain scalar if the next line is indented less. -/
theorem plainParts?_last {word tail rest : List Char} (hword : IsPlainWord word)
    (htail : NextLine 0 tail rest) {indent : Int} (hindent : 0 < indent) (fuel : Nat)
    (text blanks : List Char) {c : Cursor} (hc : c.rest = word ++ tail) :
    ∃ next, plainParts? false indent (fuel + 1) text (.within blanks) c =
        some (text ++ blanks ++ word, next) ∧
      next.rest = rest ∧ (rest ≠ [] → next.column = 0 ∧ next.fresh = true) := by
  have hbehind := Cursor.rest_passSolid hc
  cases htail with
  | none =>
    refine ⟨c.passSolid word.length, ?_, hbehind, fun h => absurd rfl h⟩
    rw [plainParts?_word hword rfl indent fuel text hc, hbehind]
  | @line d rest hspace hcomment =>
    have hline : isSpace '\n' = true := rfl
    have hnext : (c.passSolid word.length).passBreak.rest = d :: rest := by
      rw [Cursor.passBreak, hbehind]
      rfl
    obtain ⟨wider, hbreak⟩ :=
      plainGap?_break indent ('\n' :: d :: rest).length .empty hbehind
    have hgap := plainGap?_of_solid indent ('\n' :: d :: rest).length wider
      (c := (c.passSolid word.length).passBreak) (by simpa [hnext] using hspace)
    refine ⟨(c.passSolid word.length).passBreak, ?_, hnext, fun _ => ⟨rfl, rfl⟩⟩
    rw [plainParts?_word hword (plainRun_of_isSpace hline _) indent fuel text hc, hbehind]
    simp only [List.replicate_zero, List.nil_append, hline, Bool.not_true, Bool.false_eq_true,
      if_false, hbreak, hgap]
    exact if_pos hindent

/-- The words of a line are a plain scalar if the next line is indented less. The induction is on
the words, and each blank between two of them is passed. -/
theorem plainParts?_words {word : List Char} {words : List (List Char)}
    (hwords : ∀ w ∈ word :: words, IsPlainWord w) {tail rest : List Char}
    (htail : NextLine 0 tail rest) {indent : Int} (hindent : 0 < indent) {fuel : Nat}
    (hfuel : words.length < fuel) (text blanks : List Char) {c : Cursor}
    (hc : c.rest = [' '].intercalate (word :: words) ++ tail) (hcolumn : indent ≤ c.column) :
    ∃ next, plainParts? false indent fuel text (.within blanks) c =
        some (text ++ blanks ++ [' '].intercalate (word :: words), next) ∧
      next.rest = rest ∧ (rest ≠ [] → next.column = 0 ∧ next.fresh = true) := by
  induction words generalizing word fuel text blanks c with
  | nil =>
    obtain ⟨fuel, rfl⟩ := Nat.exists_eq_succ_of_ne_zero (Nat.ne_zero_of_lt hfuel)
    rw [List.intercalate_singleton] at hc ⊢
    exact plainParts?_last (hwords word (List.mem_singleton_self word)) htail hindent fuel text
      blanks hc
  | cons second words ih =>
    obtain ⟨hword, hrest⟩ := List.forall_mem_cons.mp hwords
    obtain ⟨fuel, rfl⟩ := Nat.exists_eq_succ_of_ne_zero (Nat.ne_zero_of_lt hfuel)
    rw [List.intercalate_cons_cons, List.append_assoc, List.append_assoc,
      List.singleton_append] at hc
    have hbehind := Cursor.rest_passSolid hc
    have hblank : isSpace ' ' = true := rfl
    let start := (c.passSolid word.length).pass 1
    have hstart : start.rest = [' '].intercalate (second :: words) ++ tail := by
      simp only [start, Cursor.pass, hbehind, List.drop_one, List.tail_cons]
    have hsolid : ∀ d ∈ start.rest.head?, isSpace d = false := by
      obtain ⟨d, more, rfl, -⟩ := (List.forall_mem_cons.mp hrest).1.first
      have hd : isSpace d = false :=
        (List.forall_mem_cons.mp hrest).1.solid d List.mem_cons_self
      rw [hstart]
      cases words <;> simpa using hd
    have hgap (n : Nat) : plainGap? indent (n + 1) .empty (c.passSolid word.length) =
        some (.within [' '], start) := by
      rw [plainGap?_blank indent n .empty hbehind rfl]
      exact plainGap?_of_solid indent n _ hsolid
    have hwide : indent ≤ start.column := by
      simp only [start, Cursor.pass, Cursor.passSolid]
      omega
    obtain ⟨next, hnext, hnextRest⟩ :=
      ih hrest (Nat.lt_of_succ_lt_succ hfuel) (text ++ blanks ++ word) [' '] hstart hwide
    refine ⟨next, ?_, hnextRest⟩
    rw [plainParts?_word hword (plainRun_of_isSpace hblank _) indent _ text hc, hbehind]
    simp only [hblank, Bool.not_true, Bool.false_eq_true, if_false, hgap]
    rw [if_neg (by omega), hnext, List.intercalate_cons_cons]
    simp only [List.append_assoc]

/-- There is a blank in front of each word but the first. -/
theorem length_le_intercalate (word : List Char) (words : List (List Char)) :
    words.length ≤ ([' '].intercalate (word :: words)).length := by
  induction words generalizing word with
  | nil => exact Nat.zero_le _
  | cons second words ih =>
    have := ih second
    simp only [List.intercalate_cons_cons, List.length_append, List.length_cons,
      List.length_nil] at *
    omega

/-- The words of a line are read as the plain scalar that they are. -/
theorem plain?_words {word : List Char} {words : List (List Char)}
    (hwords : ∀ w ∈ word :: words, IsPlainWord w) {tail rest : List Char}
    (htail : NextLine 0 tail rest) {indent : Int} (hindent : 0 < indent) {c : Cursor}
    (hc : c.rest = [' '].intercalate (word :: words) ++ tail) (hcolumn : indent ≤ c.column) :
    ∃ next, plain? false indent c = some ([' '].intercalate (word :: words), next) ∧
      next.rest = rest ∧ (rest ≠ [] → next.column = 0 ∧ next.fresh = true) := by
  have hfuel : words.length < c.rest.length + 1 := by
    rw [hc, List.length_append]
    exact Nat.lt_succ_of_le (Nat.le_add_right_of_le (length_le_intercalate word words))
  obtain ⟨next, hparts, hnext⟩ := plainParts?_words hwords htail hindent hfuel [] [] hc hcolumn
  obtain ⟨d, more, hd, -⟩ := (hwords word List.mem_cons_self).first
  have hfull : [' '].intercalate (word :: words) ≠ [] := by
    rw [hd]
    cases words <;> simp
  refine ⟨next, ?_, hnext⟩
  rw [plain?, Gap.empty, hparts]
  simp [hfull]

end Folio.Yaml
