import Folio.Proofs.Yaml.Scalar
import Folio.Yaml.Token

/-!
# How a block mapping is scanned

Outside of flow collections a scan goes on token by token: it passes blanks, leaves the levels that
are indented by more than the place it has come to, and reads one token. Here this is followed for
the tokens that a mapping of short entries is made of: keys with their colons, texts behind a key,
and items behind hyphens.
-/

namespace Folio.Yaml

namespace Scan

/-- A scan comes from one state to another by reading a number of tokens. -/
def Reads (n : Nat) (s t : Scan) : Prop := ∀ fuel, run? (fuel + n + 1) s = run? (fuel + 1) t

/-- What is read in two turns is read in one. -/
theorem Reads.trans {n m : Nat} {s t u : Scan} (h : Reads n s t) (h' : Reads m t u) :
    Reads (n + m) s u := by
  intro fuel
  rw [show fuel + (n + m) = fuel + m + n by omega, h, h']

/-- A scan stands somewhere in block text: no flow collection is open. -/
structure IsAt (s : Scan) (rest : List Char) (levels : List Level) (tokens : List Token) :
    Prop where
  rest_eq : s.cursor.rest = rest
  levels_eq : s.levels = levels
  tokens_eq : s.tokens = tokens
  block : s.keys.length = 1

/-- A scan stands at the end of the text or behind the margin of a line, where a key may start. -/
structure Ready (s : Scan) (margin : Nat) (rest : List Char) (levels : List Level)
    (tokens : List Token) : Prop extends IsAt s rest levels tokens where
  start : rest ≠ [] → s.cursor.column = margin ∧ s.keyAllowed = true

/-- Where one place for a key is kept, no flow collection is open. -/
theorem inFlow_of_block {s : Scan} (h : s.keys.length = 1) : s.inFlow = false := by
  rw [inFlow, depth, h]
  rfl

/-- Where the text ends or a character that is neither blank nor the mark of a comment stands, there
is nothing to pass. -/
theorem skip?_of_solid (fuel : Nat) {s : Scan}
    (h : ∀ d ∈ s.cursor.rest.head?, isSpace d = false ∧ d ≠ '#') : s.skip? fuel = some s := by
  obtain ⟨⟨rest, offset, line, column, fresh⟩, tokens, levels, keys, allowed, open_, bare, at_,
    last⟩ := s
  cases fuel with
  | zero => rfl
  | succ fuel =>
    cases rest with
    | nil => rfl
    | cons d rest =>
      obtain ⟨hspace, hcomment⟩ : isSpace d = false ∧ d ≠ '#' := h d rfl
      have htab : d ≠ '\t' := by rintro rfl; cases hspace
      rw [isSpace, Bool.or_eq_false_iff] at hspace
      simp [skip?, htab, hspace.1, hspace.2, hcomment]

/-- A space is passed. -/
theorem skip?_space (fuel : Nat) {s : Scan} {rest : List Char} (h : s.cursor.rest = ' ' :: rest) :
    s.skip? (fuel + 1) = (s.moveTo (s.cursor.pass 1)).skip? fuel := by
  rw [skip?]
  simp [h, isGap]

/-- Spaces are passed. -/
theorem skip?_spaces (fuel : Nat) (n : Nat) {s : Scan} {rest : List Char}
    (h : s.cursor.rest = List.replicate n ' ' ++ rest) :
    s.skip? (fuel + n) = (s.moveTo (s.cursor.pass n)).skip? fuel := by
  induction n generalizing s with
  | zero => rfl
  | succ n ih =>
    rw [List.replicate_succ, List.cons_append] at h
    have hrest : (s.moveTo (s.cursor.pass 1)).cursor.rest = List.replicate n ' ' ++ rest := by
      simp only [moveTo, Cursor.pass, h, List.drop_one, List.tail_cons]
    rw [← Nat.add_assoc, skip?_space (fuel + n) h, ih hrest]
    simp only [moveTo, Cursor.pass, List.drop_drop, Nat.add_assoc, Nat.add_comm 1 n]

/-- The end of a line is passed, and a key may start behind it. -/
theorem skip?_break (fuel : Nat) {s : Scan} {rest : List Char} (h : s.cursor.rest = '\n' :: rest)
    (hblock : s.keys.length = 1) :
    s.skip? (fuel + 1) =
      ({ s with cursor := s.cursor.passBreak, keyAllowed := true } : Scan).skip? fuel := by
  rw [skip?]
  simp [h, isGap, isBreak, inFlow_of_block hblock]

/-- Where a character stands that is neither blank nor the mark of a comment, nothing is passed. -/
theorem skipBlank?_of_solid {s : Scan}
    (h : ∀ d ∈ s.cursor.rest.head?, isSpace d = false ∧ d ≠ '#') : s.skipBlank? = some s :=
  skip?_of_solid _ h

/-- Behind a line the next token is that of the next line. -/
theorem skipBlank?_of_nextLine {s : Scan} {margin : Nat} {rest : List Char}
    (h : NextLine margin s.cursor.rest rest) (hblock : s.keys.length = 1) :
    ∃ next, s.skipBlank? = some next ∧ next.Ready margin rest s.levels s.tokens := by
  generalize htail : s.cursor.rest = tail at h
  cases h with
  | none =>
    exact ⟨s, skipBlank?_of_solid (by simp [htail]), ⟨htail, rfl, rfl, hblock⟩,
      fun h => absurd rfl h⟩
  | @line d rest hspace hcomment =>
    let line : Scan := { s with cursor := s.cursor.passBreak, keyAllowed := true }
    have hline : line.cursor.rest = List.replicate margin ' ' ++ d :: rest := by
      simp only [line, Cursor.passBreak, htail]
      rfl
    have hnext : (line.moveTo (line.cursor.pass margin)).cursor.rest = d :: rest := by
      simp [moveTo, Cursor.pass, hline]
    refine ⟨line.moveTo (line.cursor.pass margin), ?_, ⟨hnext, rfl, rfl, hblock⟩, fun _ => ?_⟩
    · have hlength : s.cursor.rest.length = (rest.length + 2) + margin := by
        simp [htail]
        omega
      rw [skipBlank?, skip?_break _ htail hblock, hlength, skip?_spaces _ margin hline]
      exact skip?_of_solid _ (by simp [hnext, hspace, hcomment])
    · exact ⟨Nat.zero_add margin, rfl⟩

/-- The key places that are not too far back. -/
def keptKeys (s : Scan) : List (Option KeyPlace) :=
  s.keys.map fun key =>
    key.filter fun place =>
      !(place.line < s.cursor.line || place.offset + 1024 < s.cursor.offset)

/-- A scan at the start of a turn: key places that are too far back are forgotten, and the levels
that are indented by more than the place it has come to are left. -/
def turned (s : Scan) : Scan :=
  { s with
    keys := s.keptKeys
    levels := (closeLevels s.cursor.column s.levels s.tokens).1
    tokens := (closeLevels s.cursor.column s.levels s.tokens).2 }

/-- The start of a turn keeps the number of key places. -/
theorem turned_block {s : Scan} (hblock : s.keys.length = 1) : s.turned.keys.length = 1 := by
  simpa [turned, keptKeys] using hblock

/-- Where no flow collection is open, key places that are too far back are forgotten. -/
theorem forgetKeys_eq {s : Scan} (hblock : s.keys.length = 1) :
    s.forgetKeys = { s with keys := s.keptKeys } := by
  rw [forgetKeys, inFlow_of_block hblock]
  rfl

/-- Where no flow collection is open, levels are left. -/
theorem close_eq {s : Scan} (hblock : s.keys.length = 1) (column : Int) :
    s.close column =
      { s with
        levels := (closeLevels column s.levels s.tokens).1
        tokens := (closeLevels column s.levels s.tokens).2 } := by
  rw [close, inFlow_of_block hblock]
  rfl

/-- What is done before a token is read. -/
theorem close_forgetKeys {s : Scan} (hblock : s.keys.length = 1) :
    s.forgetKeys.close s.cursor.column = s.turned := by
  have hkept : s.keptKeys.length = 1 := by simpa [keptKeys] using hblock
  rw [forgetKeys_eq hblock, close_eq hkept, turned]

/-- A token is read in one turn. -/
theorem reads_token {s next : Scan} {c : Char} {rest : List Char} (hblock : s.keys.length = 1)
    (hrest : s.cursor.rest = c :: rest) (hc : isSpace c = false ∧ c ≠ '#')
    (htoken : s.turned.token? c rest = some next) :
    Reads 1 s { next with lastColumn := s.cursor.column } := by
  intro fuel
  have hskip : s.skipBlank? = some s := skipBlank?_of_solid (by simpa [hrest] using hc)
  have hturned := close_forgetKeys hblock
  have hcursor : s.forgetKeys.cursor = s.cursor := by rw [forgetKeys_eq hblock]
  rw [run?, hskip]
  simp only [Option.bind_eq_bind, Option.bind_some, hcursor, hrest, hturned, htoken]
  rfl

/-- Blanks are passed in no turn. -/
theorem reads_blank {s next : Scan} (h : s.skipBlank? = some next)
    (hnext : next.skipBlank? = some next) : Reads 0 s next := by
  intro fuel
  rw [Nat.add_zero, run?, run?, h, hnext]

/-- At the end of the text all levels are left. -/
theorem run?_end {s : Scan} (hblock : s.keys.length = 1) (h : s.cursor.rest = []) (fuel : Nat) :
    ∃ done, s.run? (fuel + 1) = some done ∧
      done.tokens = (closeLevels (-1) s.levels s.tokens).2 := by
  have hskip : s.skipBlank? = some s := skipBlank?_of_solid (by simp [h])
  have hkept : s.keptKeys.length = 1 := by simpa [keptKeys] using hblock
  refine ⟨s.forgetKeys.close (-1), ?_, ?_⟩
  · have hcursor : s.forgetKeys.cursor = s.cursor := by rw [forgetKeys_eq hblock]
    rw [run?, hskip]
    simp only [Option.bind_eq_bind, Option.bind_some, hcursor, h]
    rfl
  · rw [forgetKeys_eq hblock, close_eq hkept]

/-- Levels that are indented no more than the place stay. -/
theorem closeLevels_of_le {column : Int} {levels : List Level} (tokens : List Token)
    (h : ∀ level ∈ levels.head?, level.column ≤ column) :
    closeLevels column levels tokens = (levels, tokens) := by
  cases levels with
  | nil => rfl
  | cons level levels =>
    have hle : level.column ≤ column := h level rfl
    rw [closeLevels, if_neg (by omega)]

/-- No document starts or ends where another character stands. -/
theorem atMarker_of_ne {marker : Char} {c : Cursor} {d : Char} {rest : List Char}
    (hc : c.rest = d :: rest) (hd : d ≠ marker) : c.atMarker marker = false := by
  rw [Cursor.atMarker.eq_def, hc]
  rcases rest with _ | ⟨e, _ | ⟨f, rest⟩⟩ <;> simp [hd]

/-- The levels that are indented by more than the place have been left. -/
theorem not_lt_indent {s : Scan} (h : ∀ level ∈ s.levels.head?, level.column ≤ s.cursor.column) :
    ¬ (s.cursor.column : Int) < s.indent := by
  rw [indent]
  cases hlevels : s.levels with
  | nil => simp
  | cons level levels =>
    have hle : level.column ≤ s.cursor.column := h level (by rw [hlevels]; rfl)
    simp only
    omega

/-- A quote starts a quoted text. -/
theorem token?_quote {s : Scan} {rest : List Char} (hrest : s.cursor.rest = '"' :: rest)
    (h : ∀ level ∈ s.levels.head?, level.column ≤ s.cursor.column) :
    s.token? '"' rest = s.quotedToken? false := by
  have hdash := atMarker_of_ne hrest (show '"' ≠ '-' by decide)
  have hdot := atMarker_of_ne hrest (show '"' ≠ '.' by decide)
  rw [token?.eq_def]
  simp [hdash, hdot, not_lt_indent h]

/-- A letter or a digit starts a plain scalar. -/
theorem token?_word {s : Scan} {c : Char} {rest : List Char} (hrest : s.cursor.rest = c :: rest)
    (hc : c.isAlphanum = true)
    (h : ∀ level ∈ s.levels.head?, level.column ≤ s.cursor.column) :
    s.token? c rest = s.plainToken? := by
  have hne := ne_of_isAlphanum hc
  have hdash := atMarker_of_ne hrest (hne '-' rfl)
  have hdot := atMarker_of_ne hrest (hne '.' rfl)
  have hgrave : c.toNat ≠ 96 := fun hgrave => hne (Char.ofNat 96) rfl (by
    rw [← Char.ofNat_toNat c, hgrave])
  rw [token?.eq_def]
  simp [hdash, hdot, not_lt_indent h, hne '%' rfl, hne '[' rfl, hne '{' rfl, hne ']' rfl,
    hne '}' rfl, hne ',' rfl, hne '-' rfl, hne '?' rfl, hne ':' rfl, hne '*' rfl, hne '&' rfl,
    hne '!' rfl, hne '|' rfl, hne '>' rfl, hne '\'' rfl, hne '"' rfl, hne '@' rfl, hgrave]

/-- A hyphen and a space start an item. -/
theorem token?_item {s : Scan} {rest : List Char} (hrest : s.cursor.rest = '-' :: ' ' :: rest)
    (h : ∀ level ∈ s.levels.head?, level.column ≤ s.cursor.column) :
    s.token? '-' (' ' :: rest) = s.blockEntry? := by
  have hdash : s.cursor.atMarker '-' = false := by
    rw [Cursor.atMarker.eq_def, hrest]
    rcases rest with _ | ⟨e, rest⟩ <;> simp
  have hdot := atMarker_of_ne hrest (show '-' ≠ '.' by decide)
  rw [token?.eq_def]
  simp [hdash, hdot, not_lt_indent h, spaceNext, isSpace, isGap]

/-- A colon in front of a blank separates a key from its value. -/
theorem token?_colon {s : Scan} {rest : List Char} (hrest : s.cursor.rest = ':' :: rest)
    (hblank : spaceNext rest = true)
    (h : ∀ level ∈ s.levels.head?, level.column ≤ s.cursor.column) :
    s.token? ':' rest = s.valueMark? := by
  have hdash := atMarker_of_ne hrest (show ':' ≠ '-' by decide)
  have hdot := atMarker_of_ne hrest (show ':' ≠ '.' by decide)
  rw [token?.eq_def]
  simp [hdash, hdot, not_lt_indent h, hblank]

/-- Behind a token at the end of its line there is nothing to pass but the line. -/
theorem margin?_of_nextLine (tabs : Bool) {c : Cursor} {margin : Nat} {rest : List Char}
    (h : NextLine margin c.rest rest) : c.margin? tabs = some ⟨c, false, false⟩ := by
  obtain ⟨tail, offset, line, column, fresh⟩ := c
  cases h with
  | none => rfl
  | line => simp [Cursor.margin?, Cursor.pass]

/-- Behind a line the text ends or a line feed stands. -/
theorem tail_of_nextLine {margin : Nat} {tail rest : List Char} (h : NextLine margin tail rest) :
    tail = [] ∨ ∃ more, tail = '\n' :: more := by
  cases h with
  | none => exact Or.inl rfl
  | line => exact Or.inr ⟨_, rfl⟩

/-- To note a place for a key changes nothing but the places. -/
theorem noteKey_eq (s : Scan) (hblock : s.keys.length = 1) :
    ∃ keys : List (Option KeyPlace), keys.length = 1 ∧ s.noteKey = { s with keys } := by
  rw [noteKey]
  split
  · exact ⟨_, by simp [hblock], rfl⟩
  · exact ⟨s.keys, hblock, rfl⟩

/-- A quoted text is read up to the next line. -/
theorem quotedToken?_of_nextLine {s : Scan} {text tail rest : List Char} {margin : Nat}
    (hblock : s.keys.length = 1) (htext : ∀ c ∈ text, isQuotable c = true)
    (htail : NextLine margin tail rest)
    (hrest : s.cursor.rest = '"' :: (text ++ '"' :: tail)) :
    ∃ next, s.quotedToken? false = some next ∧
      next.Ready margin rest s.levels (.scalar false text :: s.tokens) := by
  obtain ⟨keys, hkeys, hnote⟩ := s.noteKey_eq hblock
  obtain ⟨after, hquoted, rfl⟩ := quoted?_append htext s.indent hrest
  let behind : Scan := { s with cursor := after, keys, keyAllowed := false }
  obtain ⟨next, hskip, hnext⟩ := behind.skipBlank?_of_nextLine htail hkeys
  have hmargin : ({ s with cursor := after, keys, keyAllowed := false } : Scan).margin? true =
      some (behind, ⟨after, false, false⟩) := by
    rw [margin?, margin?_of_nextLine true htail]
    rfl
  have hscalar : quoted? false ({ s with keys, keyAllowed := false } : Scan).indent s.cursor =
      some (text, after) := hquoted
  refine ⟨({ next with adjacentAt := next.cursor.offset } : Scan).push (.scalar false text), ?_,
    ⟨hnext.rest_eq, hnext.levels_eq, congrArg _ hnext.tokens_eq, hnext.block⟩, hnext.start⟩
  rw [quotedToken?]
  simp only [hnote, allowKey, moveTo, hscalar, Option.bind_eq_bind, Option.bind_some, hmargin,
    hskip]
  refine if_neg ?_
  rcases tail_of_nextLine htail with hend | ⟨more, hend⟩ <;> simp [behind, hend, isBreak]

/-- Where no level is left, a turn starts with the levels and tokens that there are. -/
theorem IsAt.turned {s : Scan} {rest : List Char} {levels : List Level} {tokens : List Token}
    (h : s.IsAt rest levels tokens)
    (hcolumn : ∀ level ∈ levels.head?, level.column ≤ s.cursor.column) :
    s.turned.IsAt rest levels tokens ∧
      ∀ level ∈ s.turned.levels.head?, level.column ≤ s.turned.cursor.column := by
  have hclose : closeLevels s.cursor.column s.levels s.tokens = (s.levels, s.tokens) :=
    closeLevels_of_le s.tokens (by rw [h.levels_eq]; exact hcolumn)
  have hlevels : s.turned.levels = levels := by rw [Scan.turned, hclose, h.levels_eq]
  have htokens : s.turned.tokens = tokens := by rw [Scan.turned, hclose, h.tokens_eq]
  exact ⟨⟨h.rest_eq, hlevels, htokens, turned_block h.block⟩, by rw [hlevels]; exact hcolumn⟩

/-- What is known of a place does not depend on the column of the last token. -/
theorem Ready.setLastColumn {s : Scan} {margin : Nat} {rest : List Char} {levels : List Level}
    {tokens : List Token} (h : s.Ready margin rest levels tokens) (last : Nat) :
    ({ s with lastColumn := last } : Scan).Ready margin rest levels tokens :=
  ⟨⟨h.rest_eq, h.levels_eq, h.tokens_eq, h.block⟩, h.start⟩

/-- A quoted text behind which its line ends is read in one turn. -/
theorem IsAt.reads_quoted {s : Scan} {text tail rest : List Char} {margin : Nat}
    {levels : List Level} {tokens : List Token}
    (h : s.IsAt ('"' :: (text ++ '"' :: tail)) levels tokens)
    (htext : ∀ c ∈ text, isQuotable c = true) (htail : NextLine margin tail rest)
    (hcolumn : ∀ level ∈ levels.head?, level.column ≤ s.cursor.column) :
    ∃ next, Reads 1 s next ∧ next.Ready margin rest levels (.scalar false text :: tokens) := by
  obtain ⟨hturned, hindent⟩ := h.turned hcolumn
  obtain ⟨next, hnext, hready⟩ :=
    quotedToken?_of_nextLine hturned.block htext htail hturned.rest_eq
  rw [hturned.levels_eq, hturned.tokens_eq] at hready
  have htoken : s.turned.token? '"' (text ++ '"' :: tail) = some next := by
    rw [token?_quote hturned.rest_eq hindent, hnext]
  exact ⟨_, reads_token h.block h.rest_eq (by decide) htoken, hready.setLastColumn _⟩

/-- A plain scalar that is the value of a key is read up to the next line. -/
theorem plainToken?_of_nextLine {s : Scan} {word : List Char} {words : List (List Char)}
    {tail rest : List Char} {levels : List Level} (hblock : s.keys.length = 1)
    (hlevels : s.levels = ⟨1, false⟩ :: ⟨0, true⟩ :: levels)
    (hwords : ∀ w ∈ word :: words, IsPlainWord w) (htail : NextLine 0 tail rest)
    (hrest : s.cursor.rest = [' '].intercalate (word :: words) ++ tail)
    (hcolumn : 1 ≤ s.cursor.column) :
    ∃ next, s.plainToken? = some next ∧
      next.Ready 0 rest (⟨0, true⟩ :: levels)
        (.scalar true ([' '].intercalate (word :: words)) :: s.tokens) := by
  obtain ⟨keys, hkeys, hnote⟩ := s.noteKey_eq hblock
  have hflow := inFlow_of_block (s := { s with keys }) hkeys
  obtain ⟨after, hplain, hafter, hstart⟩ :=
    plain?_words hwords htail (show (0 : Int) < 0 + 1 by decide) hrest (by omega)
  let settled : Scan := { s with keys, keyAllowed := false, levels := ⟨0, true⟩ :: levels }
  have hsettle : ({ s with keys, keyAllowed := false } : Scan).settle = settled := by
    rw [settle, hlevels]
    rfl
  have hscalar : plain? settled.inFlow (settled.indent + 1) settled.cursor =
      some ([' '].intercalate (word :: words), after) := by
    rw [show settled.inFlow = false from hflow]
    exact hplain
  refine ⟨({ settled with cursor := after, keyAllowed := after.fresh } : Scan).push
    (.scalar true ([' '].intercalate (word :: words))), ?_,
    ⟨hafter, rfl, rfl, hkeys⟩, hstart⟩
  rw [plainToken?]
  simp only [hnote, allowKey, hsettle, hscalar, Option.bind_eq_bind, Option.bind_some]
  rfl

/-- A plain scalar that is the value of a key is read in one turn. -/
theorem IsAt.reads_plain {s : Scan} {word : List Char} {words : List (List Char)}
    {tail rest : List Char} {levels : List Level} {tokens : List Token}
    (h : s.IsAt ([' '].intercalate (word :: words) ++ tail) (⟨1, false⟩ :: ⟨0, true⟩ :: levels)
      tokens)
    (hwords : ∀ w ∈ word :: words, IsPlainWord w) (htail : NextLine 0 tail rest)
    (hcolumn : 1 ≤ s.cursor.column) :
    ∃ next, Reads 1 s next ∧
      next.Ready 0 rest (⟨0, true⟩ :: levels)
        (.scalar true ([' '].intercalate (word :: words)) :: tokens) := by
  obtain ⟨hturned, hindent⟩ := h.turned (by rintro level ⟨⟩; exact Int.ofNat_le.mpr hcolumn)
  obtain ⟨next, hnext, hready⟩ :=
    plainToken?_of_nextLine hturned.block hturned.levels_eq hwords htail hturned.rest_eq hcolumn
  rw [hturned.tokens_eq] at hready
  obtain ⟨d, more, hd, halnum⟩ := (hwords word List.mem_cons_self).first
  obtain ⟨after, hafter⟩ : ∃ after, [' '].intercalate (word :: words) ++ tail = d :: after := by
    rw [hd]
    cases words <;> exact ⟨_, rfl⟩
  have htoken : s.turned.token? d after = some next := by
    rw [token?_word (hturned.rest_eq.trans hafter) halnum hindent, hnext]
  have hsolid : isSpace d = false ∧ d ≠ '#' :=
    ⟨(hwords word List.mem_cons_self).solid d (hd ▸ List.mem_cons_self),
      ne_of_isAlphanum halnum '#' rfl⟩
  exact ⟨_, reads_token h.block (h.rest_eq.trans hafter) hsolid htoken, hready.setLastColumn _⟩

/-- The tokens in front of the first or a later key of a mapping. -/
def openMapping (levels : List Level) (tokens : List Token) : List Token :=
  if levels = [] then .blockMappingStart :: tokens else tokens

/-- A colon behind a key at the margin makes it a key, and opens the mapping if it is the first. -/
theorem valueMark?_of_key {s : Scan} {key after : List Char} {base : List Level}
    {tokens : List Token} {offset line : Nat}
    (hrest : s.cursor.rest = ':' :: after) (hafter : after.head? ≠ some '\t')
    (hkeys : s.keys = [some ⟨tokens.length, offset, line, 0⟩])
    (hlevels : s.levels = base) (hbase : base = [] ∨ base = [⟨0, true⟩])
    (htokens : s.tokens = .scalar true key :: tokens) :
    ∃ next, s.valueMark? = some next ∧
      next.IsAt after [⟨1, false⟩, ⟨0, true⟩]
        (.value :: .scalar true key :: .key :: openMapping base tokens) ∧
      next.cursor.column = s.cursor.column + 1 := by
  obtain ⟨cursor, _, levels, _, allowed, mappingOpen, bare, adjacentAt, lastColumn⟩ := s
  simp only at hkeys hlevels htokens
  subst hkeys levels htokens
  have hpass : (cursor.passSolid 1).rest = after := by
    rw [Cursor.passSolid, Cursor.pass, hrest]
    rfl
  refine ⟨⟨cursor.passSolid 1, .value :: .scalar true key :: .key :: openMapping base tokens,
    [⟨1, false⟩, ⟨0, true⟩], [none], false, mappingOpen, false, adjacentAt, lastColumn⟩, ?_,
    ⟨hpass, rfl, rfl, rfl⟩, rfl⟩
  rw [valueMark?]
  rcases hbase with rfl | rfl
  · simp only [inFlow, depth, moveTo, hpass, hafter, insert, openBlock, indent, indentMore, setKey,
      allowKey, push, openMapping]
    simp
    rw [show tokens.length + 1 + 1 - tokens.length = 2 by omega]
    rfl
  · simp [inFlow, depth, moveTo, hpass, hafter, insert, openBlock, indent, indentMore, setKey,
      allowKey, push, openMapping]

/-- A word in front of a colon is read as a plain scalar, and its place is noted. -/
theorem plainToken?_of_key {s : Scan} {key after : List Char}
    (hrest : s.cursor.rest = key ++ ':' :: after) (hkey : IsPlainWord key)
    (hblank : spaceNext after = true) (hblock : s.keys.length = 1) (hallowed : s.keyAllowed = true)
    (hbase : s.levels = [] ∨ s.levels = [⟨0, true⟩]) :
    s.plainToken? =
      some
        { s with
          cursor := s.cursor.passSolid key.length
          tokens := .scalar true key :: s.tokens
          keys := [some ⟨s.tokens.length, s.cursor.offset, s.cursor.line, s.cursor.column⟩]
          keyAllowed := false } := by
  obtain ⟨cursor, tokens, levels, keys, _, mappingOpen, bare, adjacentAt, lastColumn⟩ := s
  simp only at hrest hbase hblock hallowed
  subst hallowed
  obtain ⟨place, rfl⟩ := List.length_eq_one_iff.mp hblock
  have hcolon : plainRun false (':' :: after) = [] := by
    simp [plainRun, isPlain, isSpace, isGap, isBreak, hblank]
  have hplain (indent : Int) :
      plain? false indent cursor = some (key, cursor.passSolid key.length) :=
    plain?_word hkey hcolon (by simp [isSpace, isGap, isBreak]) indent hrest
  have hsettle : levels.dropWhile (fun level => !level.collection) = levels := by
    rcases hbase with rfl | rfl <;> rfl
  rw [plainToken?]
  simp only [noteKey, setKey, allowKey, settle, hsettle, inFlow, depth, if_true, List.tail_cons,
    List.length_singleton, Nat.sub_self, Nat.lt_irrefl, decide_false, hplain, push,
    Option.bind_eq_bind, Option.bind_some]
  rfl

/-- The levels around a mapping at the margin are indented no more than any place. -/
theorem le_of_base {base : List Level} (hbase : base = [] ∨ base = [⟨0, true⟩]) (column : Nat) :
    ∀ level ∈ base.head?, level.column ≤ column := by
  rcases hbase with rfl | rfl <;> simp

/-- The word of a key at the margin is read in one turn, and its place is noted. -/
theorem Ready.reads_word {s : Scan} {key after : List Char} {levels base : List Level}
    {tokens closed : List Token} (h : s.Ready 0 (key ++ ':' :: after) levels tokens)
    (hclose : closeLevels 0 levels tokens = (base, closed))
    (hbase : base = [] ∨ base = [⟨0, true⟩]) (hkey : IsPlainWord key) (hlength : key.length ≤ 1024)
    (hblank : spaceNext after = true) :
    ∃ next offset, Reads 1 s next ∧ next.IsAt (':' :: after) base (.scalar true key :: closed) ∧
      next.keys = [some ⟨closed.length, offset, next.cursor.line, 0⟩] ∧
      next.cursor.offset ≤ offset + 1024 := by
  obtain ⟨d, more, hd, halnum⟩ := hkey.first
  obtain ⟨hcolumn, hallowed⟩ := h.start (by simp)
  have hstart : s.cursor.rest = d :: (more ++ ':' :: after) := h.rest_eq.trans (by rw [hd]; rfl)
  have hsolid : isSpace d = false ∧ d ≠ '#' :=
    ⟨hkey.solid d (hd ▸ List.mem_cons_self), ne_of_isAlphanum halnum '#' rfl⟩
  have hturned : (s.turned.levels, s.turned.tokens) = (base, closed) := by
    rw [← hclose, ← h.levels_eq, ← h.tokens_eq, turned, hcolumn, Int.ofNat_zero]
  obtain ⟨hlevels, htokens⟩ := Prod.mk.inj hturned
  have htoken := (token?_word (s := s.turned) hstart halnum
    (by rw [hlevels]; exact le_of_base hbase _)).trans
    (plainToken?_of_key (s := s.turned) h.rest_eq hkey hblank (turned_block h.block) hallowed
      (by rw [hlevels]; exact hbase))
  refine ⟨_, s.cursor.offset, reads_token h.block hstart hsolid htoken,
    ⟨Cursor.rest_passSolid h.rest_eq, hlevels, by rw [← htokens], rfl⟩, ?_, ?_⟩
  · rw [← htokens, ← hcolumn]
    rfl
  · exact Nat.add_le_add_left hlength _

/-- The colon behind a key is read in one turn. -/
theorem IsAt.reads_colon {s : Scan} {key after : List Char} {base : List Level}
    {tokens : List Token} {offset : Nat}
    (h : s.IsAt (':' :: after) base (.scalar true key :: tokens))
    (hkeys : s.keys = [some ⟨tokens.length, offset, s.cursor.line, 0⟩])
    (hoffset : s.cursor.offset ≤ offset + 1024) (hbase : base = [] ∨ base = [⟨0, true⟩])
    (hblank : spaceNext after = true) (htab : after.head? ≠ some '\t') :
    ∃ next, Reads 1 s next ∧
      next.IsAt after [⟨1, false⟩, ⟨0, true⟩]
        (.value :: .scalar true key :: .key :: openMapping base tokens) ∧
      1 ≤ next.cursor.column := by
  obtain ⟨hturned, hindent⟩ := h.turned (le_of_base hbase _)
  have hkept : s.turned.keys = [some ⟨tokens.length, offset, s.cursor.line, 0⟩] := by
    rw [Scan.turned, keptKeys, hkeys]
    simp [Option.filter_some, hoffset]
  obtain ⟨next, hnext, hisAt, hwidth⟩ :=
    valueMark?_of_key hturned.rest_eq htab hkept hturned.levels_eq hbase hturned.tokens_eq
  have htoken := (token?_colon hturned.rest_eq hblank hindent).trans hnext
  refine ⟨_, reads_token h.block h.rest_eq (by decide) htoken,
    ⟨hisAt.rest_eq, hisAt.levels_eq, hisAt.tokens_eq, hisAt.block⟩, ?_⟩
  change 1 ≤ next.cursor.column
  omega

/-- A key at the margin and its colon are read in two turns. -/
theorem Ready.reads_key {s : Scan} {key after : List Char} {levels base : List Level}
    {tokens closed : List Token} (h : s.Ready 0 (key ++ ':' :: after) levels tokens)
    (hclose : closeLevels 0 levels tokens = (base, closed))
    (hbase : base = [] ∨ base = [⟨0, true⟩]) (hkey : IsPlainWord key) (hlength : key.length ≤ 1024)
    (hblank : spaceNext after = true) (htab : after.head? ≠ some '\t') :
    ∃ next, Reads 2 s next ∧
      next.IsAt after [⟨1, false⟩, ⟨0, true⟩]
        (.value :: .scalar true key :: .key :: openMapping base closed) ∧
      1 ≤ next.cursor.column := by
  obtain ⟨between, offset, hfirst, hbetween, hkeys, hoffset⟩ :=
    h.reads_word hclose hbase hkey hlength hblank
  obtain ⟨next, hsecond, hnext⟩ := hbetween.reads_colon hkeys hoffset hbase hblank htab
  exact ⟨next, hfirst.trans hsecond, hnext⟩

/-- The levels within a sequence that is the value of a key at the margin. A sequence that is not
indented opens no level. -/
def itemLevels (margin : Nat) : List Level :=
  if margin = 0 then [⟨0, true⟩] else [⟨margin, true⟩, ⟨0, true⟩]

/-- The innermost level within such a sequence is at its margin. -/
theorem column_itemLevels {margin : Nat} {level : Level}
    (h : level ∈ (itemLevels margin).head?) : level.column = margin := by
  rw [itemLevels] at h
  by_cases hmargin : margin = 0
  · rw [if_pos hmargin] at h
    obtain rfl := Option.some.inj h
    rw [hmargin, Int.natCast_zero]
  · rw [if_neg hmargin] at h
    obtain rfl := Option.some.inj h
    rfl

/-- The tokens in front of the first item of a sequence. -/
def openSequence (margin : Nat) (tokens : List Token) : List Token :=
  if margin = 0 then tokens else .blockSequenceStart :: tokens

/-- The first hyphen of a sequence opens it if it is indented. -/
theorem openBlock_first {s : Scan} {margin : Nat} (hblock : s.keys.length = 1)
    (hlevels : s.levels = if margin = 0 then [⟨0, true⟩] else [⟨1, false⟩, ⟨0, true⟩]) :
    s.openBlock margin none .blockSequenceStart =
      { s with levels := itemLevels margin, tokens := openSequence margin s.tokens } := by
  obtain ⟨cursor, tokens, levels, keys, allowed, mappingOpen, bare, adjacentAt, lastColumn⟩ := s
  simp only at hlevels
  subst hlevels
  rw [openBlock, inFlow_of_block hblock]
  by_cases hmargin : margin = 0
  · simp [hmargin, indent, itemLevels, openSequence]
  · have hwide : (1 : Int) ≤ margin ∧ 0 < (margin : Int) := by omega
    simp [hmargin, indent, itemLevels, openSequence, hwide, push]

/-- A later hyphen of a sequence opens nothing. -/
theorem openBlock_later {s : Scan} {margin : Nat} (hblock : s.keys.length = 1)
    (hlevels : s.levels = itemLevels margin) :
    s.openBlock margin none .blockSequenceStart = s := by
  obtain ⟨cursor, tokens, levels, keys, allowed, mappingOpen, bare, adjacentAt, lastColumn⟩ := s
  simp only at hlevels
  subst hlevels
  rw [openBlock, inFlow_of_block hblock]
  by_cases hmargin : margin = 0
  · simp [hmargin, indent, itemLevels]
  · simp [hmargin, indent, itemLevels]

/-- A hyphen in front of a quoted text starts an item. -/
theorem blockEntry?_of_item {s : Scan} {margin : Nat} {more : List Char} {levels : List Level}
    {tokens : List Token} (hrest : s.cursor.rest = '-' :: ' ' :: '"' :: more)
    (hcolumn : s.cursor.column = margin) (hblock : s.keys.length = 1)
    (hallowed : s.keyAllowed = true) (hproperty : s.strayProperty = false)
    (hopen : ∀ cursor, ({ s with cursor } : Scan).openBlock margin none .blockSequenceStart =
      { s with cursor, levels, tokens }) :
    ∃ next, s.blockEntry? = some next ∧ next.IsAt ('"' :: more) levels (.blockEntry :: tokens) ∧
      next.cursor.column = margin + 2 := by
  have hpassed : (s.cursor.passSolid 1).rest = ' ' :: '"' :: more := by
    rw [Cursor.passSolid, Cursor.pass, hrest]
    rfl
  have hfirst : (s.cursor.passSolid 1).margin? true =
      some ⟨(s.cursor.passSolid 1).pass 1, false, true⟩ := by
    rw [Cursor.margin?, hpassed]
    simp [Cursor.pass, hpassed]
  have hquote : ((s.cursor.passSolid 1).pass 1).rest = '"' :: more := by
    rw [Cursor.pass, hpassed]
    rfl
  have hsecond : ((s.cursor.passSolid 1).pass 1).margin? false =
      some ⟨(s.cursor.passSolid 1).pass 1, false, false⟩ := by
    rw [Cursor.margin?, hquote]
    simp [Cursor.pass, hpassed]
  obtain ⟨cursor, before, outer, keys, allowed, mappingOpen, bare, adjacentAt, lastColumn⟩ := s
  simp only at *
  obtain ⟨place, rfl⟩ := List.length_eq_one_iff.mp hblock
  subst hallowed hcolumn
  refine ⟨⟨(cursor.passSolid 1).pass 1, .blockEntry :: tokens, levels, [none], true, mappingOpen,
    bare, adjacentAt, lastColumn⟩, ?_, ⟨hquote, rfl, rfl, rfl⟩, rfl⟩
  rw [Scan.blockEntry?]
  simp only [inFlow, depth, hproperty, moveTo, hopen, margin?, hfirst, hsecond, Option.map_some,
    Option.bind_eq_bind, Option.bind_some, setKey, allowKey, push]
  simp [hquote, isBreak, isFlowMark]

/-- An item behind which its line ends is read in two turns, one for the hyphen and one for its
text. -/
theorem Ready.reads_item {s : Scan} {margin next : Nat} {text tail rest : List Char}
    {outer closed levels : List Level} {before tokens : List Token}
    (h : s.Ready margin ('-' :: ' ' :: '"' :: (text ++ '"' :: tail)) outer before)
    (hclose : closeLevels margin outer before = (closed, before))
    (hclosed : ∀ level ∈ closed.head?, level.column ≤ margin)
    (hproperty : ∀ token ∈ before.head?, token = .value ∨ ∃ item, token = .scalar false item)
    (hopen : ∀ u : Scan, u.keys.length = 1 → u.levels = closed → u.tokens = before →
      u.openBlock margin none .blockSequenceStart = { u with levels, tokens })
    (hlevels : ∀ level ∈ levels.head?, level.column ≤ margin + 2)
    (htext : ∀ c ∈ text, isQuotable c = true) (htail : NextLine next tail rest) :
    ∃ t, Reads 2 s t ∧ t.Ready next rest levels (.scalar false text :: .blockEntry :: tokens) := by
  obtain ⟨hcolumn, hallowed⟩ := h.start (by simp)
  have hturned : (s.turned.levels, s.turned.tokens) = (closed, before) := by
    rw [← hclose, turned, hcolumn, h.levels_eq, h.tokens_eq]
  obtain ⟨hturnedLevels, hturnedTokens⟩ := Prod.mk.inj hturned
  have hstray : s.turned.strayProperty = false := by
    rw [strayProperty, hturnedTokens]
    cases before with
    | nil => simp
    | cons token before =>
      rcases hproperty token rfl with rfl | ⟨item, rfl⟩ <;> simp
  obtain ⟨between, hentry, hbetween, hwidth⟩ :=
    blockEntry?_of_item (s := s.turned) h.rest_eq hcolumn (turned_block h.block) hallowed hstray
      fun cursor =>
        hopen { s.turned with cursor } (turned_block h.block) hturnedLevels hturnedTokens
  have htoken := (token?_item (s := s.turned) h.rest_eq (by
    rw [hturnedLevels, show s.turned.cursor.column = margin from hcolumn]
    exact hclosed)).trans hentry
  have hfirst := reads_token h.block h.rest_eq (by decide) htoken
  have hbehind : ({ between with lastColumn := s.cursor.column } : Scan).IsAt
      ('"' :: (text ++ '"' :: tail)) levels (.blockEntry :: tokens) :=
    ⟨hbetween.rest_eq, hbetween.levels_eq, hbetween.tokens_eq, hbetween.block⟩
  obtain ⟨t, hsecond, ht⟩ := hbehind.reads_quoted htext htail (by
    rw [show ({ between with lastColumn := s.cursor.column } : Scan).cursor.column = margin + 2
      from hwidth]
    exact_mod_cast hlevels)
  exact ⟨t, hfirst.trans hsecond, ht⟩

end Scan

end Folio.Yaml
