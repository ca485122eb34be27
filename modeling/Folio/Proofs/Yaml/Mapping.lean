import Folio.Proofs.Yaml.Scan
import Folio.Yaml.Node

/-!
# Mappings of short entries

A mapping is written as one entry after the other at the margin. The value behind a key is a quoted
text or a plain scalar on the same line, or a sequence of quoted texts on the lines below it, all
indented alike and possibly not at all. Whatever the entries are, the text is cut into the tokens of
a mapping with these entries in their order, and is read as the map of their values.
-/

namespace Folio.Yaml

open Scan (Reads Ready IsAt itemLevels openSequence openMapping)

/-- A value as it is written behind a key. -/
inductive Written where
  | quoted (text : List Char)
  | plain (word : List Char) (words : List (List Char))
  | items (margin : Nat) (first : List Char) (more : List (List Char))

namespace Written

/-- An item on a line of its own. -/
def itemText (margin : Nat) (text : List Char) : List Char :=
  '\n' :: (List.replicate margin ' ' ++ '-' :: ' ' :: '"' :: (text ++ ['"']))

/-- What stands behind the colon. -/
def text : Written → List Char
  | .quoted text => ' ' :: '"' :: (text ++ ['"'])
  | .plain word words => ' ' :: [' '].intercalate (word :: words)
  | .items margin first more => (first :: more).flatMap (itemText margin)

/-- The tokens of an item. -/
def itemTokens (text : List Char) : List Token := [.blockEntry, .scalar false text]

/-- The tokens of a value. -/
def tokens : Written → List Token
  | .quoted text => [.scalar false text]
  | .plain word words => [.scalar true ([' '].intercalate (word :: words))]
  | .items margin first more =>
    if margin = 0 then (first :: more).flatMap itemTokens
    else .blockSequenceStart :: (first :: more).flatMap itemTokens ++ [.blockEnd]

/-- The value that is written. -/
def value : Written → Value
  | .quoted text => .text text
  | .plain word words => .ofPlain ([' '].intercalate (word :: words))
  | .items _ first more => .list ((first :: more).map .text)

/-- Quoted texts have no character that means something within quotes, and plain scalars are made of
words. -/
def IsSound : Written → Prop
  | .quoted text => ∀ c ∈ text, isQuotable c = true
  | .plain word words => ∀ w ∈ word :: words, IsPlainWord w
  | .items _ first more => ∀ text ∈ first :: more, ∀ c ∈ text, isQuotable c = true

end Written

namespace Scan

variable {s : Scan} {tail rest : List Char} {levels : List Level} {tokens : List Token}

/-- A space in front of a token is passed. -/
theorem IsAt.reads_space {d : Char} (h : s.IsAt (' ' :: d :: rest) levels tokens)
    (hd : isSpace d = false ∧ d ≠ '#') :
    ∃ t, Reads 0 s t ∧ t.IsAt (d :: rest) levels tokens ∧
      t.cursor.column = s.cursor.column + 1 := by
  have hrest : (s.moveTo (s.cursor.pass 1)).cursor.rest = d :: rest := by
    simp [moveTo, Cursor.pass, h.rest_eq]
  have hsolid : ∀ e ∈ (s.moveTo (s.cursor.pass 1)).cursor.rest.head?,
      isSpace e = false ∧ e ≠ '#' := by
    rw [hrest]
    rintro e ⟨⟩
    exact hd
  refine ⟨s.moveTo (s.cursor.pass 1), reads_blank ?_ (skipBlank?_of_solid hsolid),
    ⟨hrest, h.levels_eq, h.tokens_eq, h.block⟩, rfl⟩
  rw [skipBlank?, skip?_space _ h.rest_eq]
  exact skip?_of_solid _ hsolid

/-- The end of a line in front of a token is passed with the margin of the next line. -/
theorem IsAt.reads_line {margin : Nat} (h : s.IsAt tail levels tokens)
    (htail : NextLine margin tail rest) :
    ∃ t, Reads 0 s t ∧ t.Ready margin rest levels tokens := by
  obtain ⟨t, hskip, ht⟩ := skipBlank?_of_nextLine (by rw [h.rest_eq]; exact htail) h.block
  rw [h.levels_eq, h.tokens_eq] at ht
  refine ⟨t, reads_blank hskip (skipBlank?_of_solid ?_), ht⟩
  rw [ht.rest_eq]
  cases htail with
  | none => simp
  | line _ hspace hcomment =>
    rintro d ⟨⟩
    exact ⟨hspace, hcomment⟩

/-- The lines of items come one after the other. -/
theorem nextLine_items (margin : Nat) (first : List Char) (more : List (List Char)) :
    NextLine margin ((first :: more).flatMap (Written.itemText margin) ++ tail)
      ('-' :: ' ' :: '"' ::
        (first ++ '"' :: (more.flatMap (Written.itemText margin) ++ tail))) := by
  have h : NextLine margin ('\n' :: (List.replicate margin ' ' ++ '-' :: ' ' :: '"' ::
      (first ++ '"' :: (more.flatMap (Written.itemText margin) ++ tail)))) _ := .line
    (' ' :: '"' :: (first ++ '"' :: (more.flatMap (Written.itemText margin) ++ tail))) rfl
    (by decide)
  simpa [Written.itemText] using h

/-- An item of an open sequence is read in two turns. -/
theorem Ready.reads_later {margin next : Nat} {text : List Char}
    (h : s.Ready margin ('-' :: ' ' :: '"' :: (text ++ '"' :: tail)) (itemLevels margin) tokens)
    (hproperty : ∀ token ∈ tokens.head?, token = .value ∨ ∃ item, token = .scalar false item)
    (htext : ∀ c ∈ text, isQuotable c = true) (htail : NextLine next tail rest) :
    ∃ t, Reads 2 s t ∧
      t.Ready next rest (itemLevels margin) (.scalar false text :: .blockEntry :: tokens) := by
  have hhead : ∀ level ∈ (itemLevels margin).head?, level.column ≤ margin :=
    fun _ hlevel => Int.le_of_eq (Scan.column_itemLevels hlevel)
  refine h.reads_item (closeLevels_of_le tokens hhead) hhead hproperty ?_ ?_ htext htail
  · intro u hblock hlevels htokens
    rw [openBlock_later hblock hlevels, ← hlevels, ← htokens]
  · intro level hlevel
    have := hhead level hlevel
    omega

/-- The first item of a sequence behind a key is read in two turns. -/
theorem Ready.reads_first {margin next : Nat} {text : List Char}
    (h : s.Ready margin ('-' :: ' ' :: '"' :: (text ++ '"' :: tail)) [⟨1, false⟩, ⟨0, true⟩] tokens)
    (hproperty : ∀ token ∈ tokens.head?, token = .value ∨ ∃ item, token = .scalar false item)
    (htext : ∀ c ∈ text, isQuotable c = true) (htail : NextLine next tail rest) :
    ∃ t, Reads 2 s t ∧
      t.Ready next rest (itemLevels margin)
        (.scalar false text :: .blockEntry :: openSequence margin tokens) := by
  have hclose : closeLevels margin [⟨1, false⟩, ⟨0, true⟩] tokens =
      (if margin = 0 then [⟨0, true⟩] else [⟨1, false⟩, ⟨0, true⟩], tokens) := by
    by_cases hmargin : margin = 0
    · simp [hmargin, closeLevels]
    · have hwide : ¬ (margin : Int) < 1 := by omega
      simp [hmargin, closeLevels, hwide]
  refine h.reads_item hclose ?_ hproperty ?_ ?_ htext htail
  · intro level hlevel
    by_cases hmargin : margin = 0
    · rw [if_pos hmargin] at hlevel
      obtain rfl := Option.some.inj hlevel
      exact Int.natCast_nonneg margin
    · rw [if_neg hmargin] at hlevel
      obtain rfl := Option.some.inj hlevel
      have hwide : (1 : Int) ≤ margin := by omega
      exact hwide
  · intro u hblock hlevels htokens
    rw [openBlock_first hblock hlevels, htokens]
  · intro level hlevel
    have hcolumn := Scan.column_itemLevels hlevel
    omega

/-- The items of an open sequence are read in two turns each. -/
theorem Ready.reads_items {margin : Nat} {first : List Char} {more : List (List Char)}
    (h : s.Ready margin ('-' :: ' ' :: '"' ::
      (first ++ '"' :: (more.flatMap (Written.itemText margin) ++ tail)))
      (itemLevels margin) tokens)
    (hproperty : ∀ token ∈ tokens.head?, token = .value ∨ ∃ item, token = .scalar false item)
    (htexts : ∀ text ∈ first :: more, ∀ c ∈ text, isQuotable c = true)
    (htail : NextLine 0 tail rest) :
    ∃ t, Reads (2 * (more.length + 1)) s t ∧
      t.Ready 0 rest (itemLevels margin)
        (((first :: more).flatMap Written.itemTokens).reverse ++ tokens) := by
  induction more generalizing first s tokens with
  | nil =>
    obtain ⟨t, hread, ht⟩ := h.reads_later hproperty (htexts first List.mem_cons_self) htail
    exact ⟨t, hread, ht⟩
  | cons second more ih =>
    obtain ⟨hfirst, hmore⟩ := List.forall_mem_cons.mp htexts
    obtain ⟨between, hread, hbetween⟩ :=
      h.reads_later hproperty hfirst (nextLine_items margin second more)
    obtain ⟨t, hreads, ht⟩ := ih hbetween (by simp) hmore
    refine ⟨t, ?_, ?_⟩
    · rw [List.length_cons, show 2 * (more.length + 1 + 1) = 2 + 2 * (more.length + 1) by omega]
      exact hread.trans hreads
    · simpa [Written.itemTokens] using ht

/-- The lines of a sequence are read in two turns each. -/
theorem IsAt.reads_sequence {margin : Nat} {first : List Char} {more : List (List Char)}
    (h : s.IsAt ((first :: more).flatMap (Written.itemText margin) ++ tail)
      [⟨1, false⟩, ⟨0, true⟩] (.value :: tokens))
    (htexts : ∀ text ∈ first :: more, ∀ c ∈ text, isQuotable c = true)
    (htail : NextLine 0 tail rest) :
    ∃ t, Reads (2 * (more.length + 1)) s t ∧
      t.Ready 0 rest (itemLevels margin)
        (((first :: more).flatMap Written.itemTokens).reverse ++
          openSequence margin (.value :: tokens)) := by
  obtain ⟨hfirst, hmore⟩ := List.forall_mem_cons.mp htexts
  obtain ⟨start, hblank, hstart⟩ := h.reads_line (nextLine_items margin first more)
  cases more with
  | nil =>
    obtain ⟨t, hread, ht⟩ := hstart.reads_first (by simp) hfirst htail
    exact ⟨t, hblank.trans hread, ht⟩
  | cons second more =>
    obtain ⟨between, hread, hbetween⟩ :=
      hstart.reads_first (by simp) hfirst (nextLine_items margin second more)
    obtain ⟨t, hreads, ht⟩ := hbetween.reads_items (by simp) hmore htail
    refine ⟨t, ?_, ?_⟩
    · rw [List.length_cons, show 2 * (more.length + 1 + 1) = 0 + 2 + 2 * (more.length + 1) by omega]
      exact (hblank.trans hread).trans hreads
    · simpa [Written.itemTokens] using ht

/-- The lines of items are long enough for their turns. -/
theorem length_items (margin : Nat) (texts : List (List Char)) :
    2 * texts.length ≤ (texts.flatMap (Written.itemText margin)).length := by
  induction texts with
  | nil => exact Nat.le_refl 0
  | cons text texts ih =>
    simp only [List.flatMap_cons, List.length_append, List.length_cons, Written.itemText]
    omega

/-- The value behind a key is read up to the next key or the end of the text, where the levels that
it has opened are left. -/
theorem IsAt.reads_value (written : Written) (hsound : written.IsSound)
    (h : s.IsAt (written.text ++ tail) [⟨1, false⟩, ⟨0, true⟩] (.value :: tokens))
    (hcolumn : 1 ≤ s.cursor.column) (htail : NextLine 0 tail rest) :
    ∃ n t levels' tokens', Reads n s t ∧ n ≤ written.text.length ∧ t.Ready 0 rest levels' tokens' ∧
      closeLevels 0 levels' tokens' =
        ([⟨0, true⟩], written.tokens.reverse ++ .value :: tokens) := by
  cases written with
  | quoted text =>
    have hrest : (Written.quoted text).text ++ tail = ' ' :: '"' :: (text ++ '"' :: tail) := by
      simp [Written.text]
    rw [hrest] at h
    obtain ⟨between, hblank, hbetween, hwidth⟩ := h.reads_space (by decide)
    obtain ⟨t, hread, ht⟩ := hbetween.reads_quoted hsound htail (by
      rintro level ⟨⟩
      simp only
      omega)
    exact ⟨1, t, _, _, hblank.trans hread, by simp [Written.text], ht, by
      simp [closeLevels, Written.tokens]⟩
  | plain word words =>
    obtain ⟨d, more, hd, halnum⟩ := (hsound word List.mem_cons_self).first
    obtain ⟨after, hafter⟩ : ∃ after, [' '].intercalate (word :: words) ++ tail = d :: after := by
      rw [hd]
      cases words <;> exact ⟨_, rfl⟩
    have hsolid : isSpace d = false ∧ d ≠ '#' :=
      ⟨(hsound word List.mem_cons_self).solid d (hd ▸ List.mem_cons_self),
        ne_of_isAlphanum halnum '#' rfl⟩
    rw [Written.text, List.cons_append, hafter] at h
    obtain ⟨between, hblank, hbetween, hwidth⟩ := h.reads_space hsolid
    rw [← hafter] at hbetween
    obtain ⟨t, hread, ht⟩ := hbetween.reads_plain hsound htail (by omega)
    exact ⟨1, t, _, _, hblank.trans hread, by simp [Written.text], ht, by
      simp [closeLevels, Written.tokens]⟩
  | items margin first more =>
    obtain ⟨t, hread, ht⟩ := h.reads_sequence hsound htail
    refine ⟨2 * (more.length + 1), t, _, _, hread, length_items margin (first :: more), ht, ?_⟩
    rw [itemLevels, openSequence, Written.tokens]
    split
    case isTrue => simp [closeLevels]
    case isFalse hmargin =>
      have hwide : 0 < margin := Nat.pos_of_ne_zero hmargin
      simp [closeLevels, hwide]

end Scan

/-- A key and the value that is written behind it. -/
structure Entry where
  key : List Char
  written : Written

namespace Entry

/-- The lines of an entry. -/
def text (entry : Entry) : List Char := entry.key ++ ':' :: entry.written.text

/-- The tokens of an entry. -/
def tokens (entry : Entry) : List Token :=
  .key :: .scalar true entry.key :: .value :: entry.written.tokens

/-- The key is a word that is no other value and not too long, and the value is sound. -/
structure IsSound (entry : Entry) : Prop where
  word : IsPlainWord entry.key
  short : entry.key.length ≤ 1024
  named : Value.ofPlain entry.key = .text entry.key
  written : entry.written.IsSound

/-- The lines of some entries. -/
def lines (entries : List Entry) : List Char := ['\n'].intercalate (entries.map text)

/-- What stands behind a colon begins with a blank. -/
theorem blank_after_colon (written : Written) (tail : List Char) :
    spaceNext (written.text ++ tail) = true ∧ (written.text ++ tail).head? ≠ some '\t' := by
  cases written <;> simp [Written.text, Written.itemText, spaceNext, isSpace, isGap, isBreak]

/-- The lines of entries begin with the first key. -/
theorem exists_lines_eq_cons {entry : Entry} (hword : IsPlainWord entry.key) (more : List Entry) :
    ∃ d rest, lines (entry :: more) = d :: rest ∧ d.isAlphanum = true ∧ isSpace d = false := by
  obtain ⟨d, rest, hd, halnum⟩ := hword.first
  obtain ⟨after, hafter⟩ : ∃ after, lines (entry :: more) = d :: after := by
    rw [lines, List.map_cons, text, hd]
    cases more <;> exact ⟨_, rfl⟩
  exact ⟨d, after, hafter, halnum, hword.solid d (hd ▸ List.mem_cons_self)⟩

/-- The next line begins with its key. -/
theorem nextLine_lines {entry : Entry} (hword : IsPlainWord entry.key) (more : List Entry) :
    NextLine 0 ('\n' :: lines (entry :: more)) (lines (entry :: more)) := by
  obtain ⟨d, after, hafter, halnum, hspace⟩ := exists_lines_eq_cons hword more
  rw [hafter]
  exact .line after hspace (ne_of_isAlphanum halnum '#' rfl)

/-- The lines of entries are those of each with a line feed in front. -/
theorem flatMap_text (entry : Entry) (more : List Entry) :
    (entry :: more).flatMap (fun e => '\n' :: e.text) = '\n' :: lines (entry :: more) := by
  induction more generalizing entry with
  | nil => simp [lines]
  | cons second more ih =>
    rw [List.flatMap_cons, ih second]
    simp [lines]

end Entry

namespace Scan

variable {s : Scan} {tail rest : List Char} {levels base : List Level} {tokens closed : List Token}

/-- An entry at the margin is read up to the next one or the end of the text. -/
theorem Ready.reads_entry {entry : Entry} (hsound : entry.IsSound)
    (h : s.Ready 0 (entry.text ++ tail) levels tokens)
    (hclose : closeLevels 0 levels tokens = (base, closed))
    (hbase : base = [] ∨ base = [⟨0, true⟩]) (htail : NextLine 0 tail rest) :
    ∃ n t levels' tokens', Reads n s t ∧ n ≤ entry.text.length ∧ t.Ready 0 rest levels' tokens' ∧
      closeLevels 0 levels' tokens' =
        ([⟨0, true⟩], entry.tokens.reverse ++ openMapping base closed) := by
  obtain ⟨hblank, htab⟩ := Entry.blank_after_colon entry.written tail
  rw [Entry.text, List.append_assoc, List.cons_append] at h
  obtain ⟨between, hkey, hbetween, hwidth⟩ :=
    h.reads_key hclose hbase hsound.word hsound.short hblank htab
  obtain ⟨n, t, levels', tokens', hread, hn, ht, hleft⟩ :=
    hbetween.reads_value entry.written hsound.written hwidth htail
  refine ⟨2 + n, t, levels', tokens', hkey.trans hread, ?_, ht, ?_⟩
  · obtain ⟨d, more, hd, -⟩ := hsound.word.first
    simp only [Entry.text, List.length_append, List.length_cons, hd]
    omega
  · rw [hleft, Entry.tokens]
    simp

/-- Entries are read one after the other. The induction is on the entries behind the first; what one
of them opens is left where the next one begins. -/
theorem Ready.reads_entries {entry : Entry} {more : List Entry}
    (hsound : ∀ e ∈ entry :: more, e.IsSound)
    (h : s.Ready 0 (Entry.lines (entry :: more)) levels tokens)
    (hclose : closeLevels 0 levels tokens = (base, closed))
    (hbase : base = [] ∨ base = [⟨0, true⟩]) :
    ∃ n t levels' tokens', Reads n s t ∧ n ≤ (Entry.lines (entry :: more)).length ∧
      t.Ready 0 [] levels' tokens' ∧
      closeLevels 0 levels' tokens' = ([⟨0, true⟩],
        ((entry :: more).flatMap Entry.tokens).reverse ++ openMapping base closed) := by
  induction more generalizing entry s levels base tokens closed with
  | nil =>
    have hlast : Entry.lines [entry] = entry.text ++ [] := by simp [Entry.lines]
    rw [hlast] at h ⊢
    obtain ⟨n, t, levels', tokens', hread, hn, ht, hleft⟩ :=
      h.reads_entry (hsound entry List.mem_cons_self) hclose hbase .none
    exact ⟨n, t, levels', tokens', hread, by simpa using hn, ht, by simpa using hleft⟩
  | cons second more ih =>
    obtain ⟨hfirst, hmore⟩ := List.forall_mem_cons.mp hsound
    have hlines : Entry.lines (entry :: second :: more) =
        entry.text ++ '\n' :: Entry.lines (second :: more) := by
      simp [Entry.lines]
    rw [hlines] at h ⊢
    obtain ⟨n, between, levels', tokens', hread, hn, hbetween, hleft⟩ :=
      h.reads_entry hfirst hclose hbase
        (Entry.nextLine_lines (hmore second List.mem_cons_self).word more)
    obtain ⟨m, t, levels'', tokens'', hreads, hm, ht, hleft'⟩ :=
      ih hmore hbetween hleft (Or.inr rfl)
    refine ⟨n + m, t, levels'', tokens'', hread.trans hreads, ?_, ht, ?_⟩
    · simp only [List.length_append, List.length_cons]
      omega
    · rw [hleft']
      simp [openMapping]

/-- Levels are left in two turns as in one. -/
theorem closeLevels_trans {column inner : Int} (hle : column ≤ inner) (levels : List Level)
    (tokens : List Token) :
    closeLevels column (closeLevels inner levels tokens).1 (closeLevels inner levels tokens).2 =
      closeLevels column levels tokens := by
  induction levels generalizing tokens with
  | nil => rfl
  | cons level levels ih =>
    by_cases hinner : inner < level.column
    · have hcolumn : column < level.column := Int.lt_of_le_of_lt hle hinner
      simp only [closeLevels, if_pos hinner, if_pos hcolumn, ih]
    · simp only [closeLevels, if_neg hinner]

end Scan

/-- Entries are cut into the tokens of a mapping with these entries. -/
theorem Token.ofText?_lines {entry : Entry} {more : List Entry}
    (hsound : ∀ e ∈ entry :: more, e.IsSound)
    (hend : '\x00' ∉ Entry.lines (entry :: more)) :
    Token.ofText? (Entry.lines (entry :: more)) =
      some (.blockMappingStart :: (entry :: more).flatMap Entry.tokens ++ [.blockEnd]) := by
  generalize hwhole : entry :: more = entries at *
  have hall : (Entry.lines entries).takeWhile (· ≠ '\x00') = Entry.lines entries := by
    have hkeep : ∀ c ∈ Entry.lines entries, decide (c ≠ '\x00') = true := by
      intro c hc
      rw [decide_eq_true_eq]
      rintro rfl
      exact hend hc
    rw [← List.append_nil (Entry.lines entries), List.takeWhile_append_of_pos hkeep,
      List.takeWhile_nil]
  have hstart : (Scan.start (Entry.lines entries)).Ready 0 (Entry.lines entries) [] [] :=
    ⟨⟨rfl, rfl, rfl, rfl⟩, fun _ => ⟨rfl, rfl⟩⟩
  subst hwhole
  obtain ⟨n, t, levels, tokens, hread, hn, ht, hleft⟩ :=
    hstart.reads_entries hsound (show Scan.closeLevels 0 [] [] = ([], []) from rfl) (Or.inl rfl)
  obtain ⟨done, hdone, htokens⟩ :=
    Scan.run?_end ht.block ht.rest_eq ((Entry.lines (entry :: more)).length - n)
  have hrun := hread ((Entry.lines (entry :: more)).length - n)
  rw [Nat.sub_add_cancel hn, hdone] at hrun
  have hclosed := Scan.closeLevels_trans (show (-1 : Int) ≤ 0 by decide) levels tokens
  rw [hleft] at hclosed
  rw [Token.ofText?]
  simp only [hall]
  rw [hrun, Option.map_some, htokens, ht.levels_eq, ht.tokens_eq, ← hclosed]
  simp [Scan.closeLevels, openMapping]

end Folio.Yaml
