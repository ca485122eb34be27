import Folio.Json.Shape

/-!
# Texts and their spellings

A text may be spelled in many ways: most characters stand for themselves, some have a letter behind
a backslash, and each one has the four hexadecimal digits of its code point, or, beyond the basic
plane, those of two halves. Every spelling is read as the text it spells. A text that is passed over
may also have halves without the other one, which spell nothing.
-/

namespace Folio.Json

open Folio.Text (Symbol byteLength hexDigit?)

/-- A character that stands for itself. -/
def IsPlain (c : Char) : Prop := c ≠ '"' ∧ c ≠ '\\' ∧ 32 ≤ c.toNat

/-- Four hexadecimal digits and their number. -/
inductive IsHex : List Char → Nat → Prop where
  | mk {a b c d : Char} {i j k l : Nat} (ha : hexDigit? a = some i) (hb : hexDigit? b = some j)
      (hc : hexDigit? c = some k) (hd : hexDigit? d = some l) :
      IsHex [a, b, c, d] (16 * (16 * (16 * i + j) + k) + l)

/-- What may stand between quotes for a text. -/
inductive SpellsText : List Char → List Char → Prop where
  | nil : SpellsText [] []
  | plain {c : Char} {s t : List Char} (hc : IsPlain c) (h : SpellsText s t) :
      SpellsText (c :: s) (c :: t)
  | named {d c : Char} {s t : List Char} (hc : namedEscape? d = some c) (h : SpellsText s t) :
      SpellsText ('\\' :: d :: s) (c :: t)
  | basic {digits : List Char} {c : Char} {s t : List Char} (hc : IsHex digits c.toNat)
      (h : SpellsText s t) : SpellsText ('\\' :: 'u' :: digits ++ s) (c :: t)
  | halves {high low : List Char} {c : Char} {s t : List Char} (hc : 0x10000 ≤ c.toNat)
      (hhigh : IsHex high (0xD800 + (c.toNat - 0x10000) / 0x400))
      (hlow : IsHex low (0xDC00 + (c.toNat - 0x10000) % 0x400)) (h : SpellsText s t) :
      SpellsText ('\\' :: 'u' :: high ++ '\\' :: 'u' :: low ++ s) (c :: t)

/-- What may stand between quotes where the text does not matter. -/
inductive IsText : List Char → Prop where
  | nil : IsText []
  | plain {c : Char} {s : List Char} (hc : IsPlain c) (h : IsText s) : IsText (c :: s)
  | named {d : Char} {s : List Char} (hd : (namedEscape? d).isSome = true) (h : IsText s) :
      IsText ('\\' :: d :: s)
  | hex {digits : List Char} {n : Nat} {s : List Char} (hn : IsHex digits n) (h : IsText s) :
      IsText ('\\' :: 'u' :: digits ++ s)

/-- What spells a text may be passed as one. -/
theorem SpellsText.isText {s t : List Char} (h : SpellsText s t) : IsText s := by
  induction h with
  | nil => exact .nil
  | plain hc h ih => exact .plain hc ih
  | named hc h ih => exact .named (hc ▸ rfl) ih
  | basic hc h ih => exact .hex hc ih
  | halves hc hhigh hlow h ih =>
    rw [List.append_assoc]
    exact .hex hhigh (.hex hlow ih)

/-- Four digits are read. -/
theorem fourDigits_append {digits : List Char} {n : Nat} (h : IsHex digits n)
    (rest : List Symbol) : fourDigits (digits.map some ++ rest) = .ok n := by
  obtain ⟨ha, hb, hc, hd⟩ := h
  rename_i a b c d i j k l
  have hlength : ¬ byteLength (some a :: some b :: some c :: some d :: rest) < 4 := by
    have hwidth (c : Char) : 1 ≤ Text.symbolWidth (some c) := c.utf8Size_pos
    have := hwidth a
    have := hwidth b
    have := hwidth c
    have := hwidth d
    simp only [byteLength]
    omega
  simp only [List.map_cons, List.map_nil, List.cons_append, List.nil_append]
  rw [fourDigits, if_neg hlength]
  simp [ha, hb, hc, hd]

/-- Four digits are four symbols. -/
theorem IsHex.drop_append {digits : List Char} {n : Nat} (h : IsHex digits n)
    (rest : List Symbol) : (digits.map some ++ rest).drop 4 = rest := by
  obtain ⟨ha, hb, hc, hd⟩ := h
  rfl

/-- Two halves are eleven symbols, with the letter of the first one. -/
theorem drop_halves {high low : List Char} {n m : Nat} (hhigh : IsHex high n) (hlow : IsHex low m)
    (rest : List Symbol) :
    (some 'u' :: (high.map some ++ some '\\' :: some 'u' :: (low.map some ++ rest))).drop (10 + 1) =
      rest := by
  rw [List.drop_succ_cons, show 10 = 4 + (2 + 4) from rfl, ← List.drop_drop, ← List.drop_drop,
    hhigh.drop_append]
  exact hlow.drop_append _

/-- The digits of a character of the basic plane are read as that character. -/
theorem unicodeEscape_basic {digits : List Char} {c : Char} (h : IsHex digits c.toNat)
    (rest : List Symbol) : unicodeEscape (digits.map some ++ rest) = .ok (c, 4) := by
  have hvalid : c.toNat < 0xD800 ∨ 0xDFFF < c.toNat ∧ c.toNat < 0x110000 := c.valid
  have hlow : isLowHalf c.toNat = false := by
    simp only [isLowHalf, Bool.and_eq_false_iff, decide_eq_false_iff_not]
    omega
  have hhigh : isHighHalf c.toNat = false := by
    simp only [isHighHalf, Bool.and_eq_false_iff, decide_eq_false_iff_not]
    omega
  rw [unicodeEscape, fourDigits_append h]
  simp [hlow, hhigh, bind, Except.bind, pure, Except.pure]

/-- The first half of a character beyond the basic plane. -/
theorem isHighHalf_of_char {c : Char} (hc : 0x10000 ≤ c.toNat) :
    isHighHalf (0xD800 + (c.toNat - 0x10000) / 0x400) = true := by
  have hvalid : c.toNat < 0xD800 ∨ 0xDFFF < c.toNat ∧ c.toNat < 0x110000 := c.valid
  simp only [isHighHalf, Bool.and_eq_true, decide_eq_true_eq]
  omega

/-- Behind a first half the second one is read. -/
theorem unicodeEscape_highHalf {high : List Char} {n : Nat} (hhigh : IsHex high n)
    (hn : isHighHalf n = true) (rest : List Symbol) :
    unicodeEscape (high.map some ++ rest) = (passWord ['\\', 'u'] rest).bind fun rest =>
      (fourDigits rest).bind fun m =>
        if isLowHalf m then
          .ok (Char.ofNat ((n - 0xD800) * 0x400 + (m - 0xDC00) + 0x10000), 10)
        else .error .syntaxError := by
  have hlow : isLowHalf n = false := by
    simp only [isHighHalf, Bool.and_eq_true, decide_eq_true_eq] at hn
    simp only [isLowHalf, Bool.and_eq_false_iff, decide_eq_false_iff_not]
    omega
  rw [unicodeEscape, fourDigits_append hhigh]
  simp only [bind, Except.bind, pure, Except.pure, hlow, hn, Bool.false_eq_true, if_false,
    Bool.not_true, hhigh.drop_append]
  cases passWord ['\\', 'u'] rest with
  | error fault => rfl
  | ok rest =>
    cases hdigits : fourDigits rest with
    | error fault => simp [hdigits]
    | ok m => cases hm : isLowHalf m <;> simp [hdigits, hm, throw, throwThe, MonadExceptOf.throw]

/-- The digits of two halves are read as their character. -/
theorem unicodeEscape_halves {high low : List Char} {c : Char} (hc : 0x10000 ≤ c.toNat)
    (hhigh : IsHex high (0xD800 + (c.toNat - 0x10000) / 0x400))
    (hlow : IsHex low (0xDC00 + (c.toNat - 0x10000) % 0x400)) (rest : List Symbol) :
    unicodeEscape (high.map some ++ some '\\' :: some 'u' :: (low.map some ++ rest)) =
      .ok (c, 10) := by
  have hsecond : isLowHalf (0xDC00 + (c.toNat - 0x10000) % 0x400) = true := by
    simp only [isLowHalf, Bool.and_eq_true, decide_eq_true_eq]
    omega
  have hnumber : (0xD800 + (c.toNat - 0x10000) / 0x400 - 0xD800) * 0x400 +
      (0xDC00 + (c.toNat - 0x10000) % 0x400 - 0xDC00) + 0x10000 = c.toNat := by omega
  have hmark : passWord ['\\', 'u'] (some '\\' :: some 'u' :: (low.map some ++ rest)) =
      .ok (low.map some ++ rest) := rfl
  rw [unicodeEscape_highHalf hhigh (isHighHalf_of_char hc), hmark]
  simp only [Except.bind, fourDigits_append hlow, hsecond, if_true, hnumber, Char.ofNat_toNat]

/-- A plain character is read as itself. -/
theorem textSymbols_plain {c : Char} (hc : IsPlain c) (rest : List Symbol) :
    textSymbols (some c :: rest) =
      (textSymbols rest).map fun (more, rest) => (some c :: more, rest) := by
  rw [textSymbols]
  simp [hc.1, hc.2.1, isControl, Nat.not_lt.mpr hc.2.2]

/-- A character behind a backslash is read as what the escape says. -/
theorem textSymbols_escape {s : List Symbol} {c : Char} {n : Nat} (h : escape s = .ok (c, n)) :
    textSymbols (some '\\' :: s) =
      (textSymbols (s.drop n)).map fun (more, rest) => (some c :: more, rest) := by
  rw [textSymbols]
  simp [h]

/-- An escape with digits has one symbol more than the digits. -/
theorem escape_unicode {s : List Symbol} {c : Char} {n : Nat} (h : unicodeEscape s = .ok (c, n)) :
    escape (some 'u' :: s) = .ok (c, n + 1) := by
  rw [escape, if_pos rfl, h]
  rfl

/-- A letter is not that of an escape with digits. -/
theorem ne_of_namedEscape? {d c : Char} (h : namedEscape? d = some c) : d ≠ 'u' := by
  rintro rfl
  cases h

/-- A spelled text is read up to its closing quote. -/
theorem textSymbols_spelled {s t : List Char} (h : SpellsText s t) (rest : List Symbol) :
    textSymbols (s.map some ++ some '"' :: rest) = .ok (t.map some, rest) := by
  induction h with
  | nil =>
    rw [List.map_nil, List.nil_append, textSymbols]
    rfl
  | plain hc _ ih =>
    rw [List.map_cons, List.cons_append, textSymbols_plain hc, ih]
    rfl
  | @named d c s t hc _ ih =>
    have hescape : escape (some d :: (s.map some ++ some '"' :: rest)) = .ok (c, 1) := by
      simp [escape, hc, ne_of_namedEscape? hc]
    rw [List.map_cons, List.cons_append, List.map_cons, List.cons_append,
      textSymbols_escape hescape, List.drop_one, List.tail_cons, ih]
    rfl
  | @basic digits c s t hc _ ih =>
    have hescape := escape_unicode (unicodeEscape_basic hc (s.map some ++ some '"' :: rest))
    simp only [List.cons_append, List.map_cons, List.map_append, List.append_assoc]
    rw [textSymbols_escape hescape, List.drop_succ_cons, hc.drop_append, ih]
    rfl
  | @halves high low c s t hc hhigh hlow _ ih =>
    have hescape := escape_unicode
      (unicodeEscape_halves hc hhigh hlow (s.map some ++ some '"' :: rest))
    simp only [List.cons_append, List.map_cons, List.map_append, List.append_assoc]
    rw [textSymbols_escape hescape, drop_halves hhigh hlow, ih]
    rfl

/-- Symbols that are all characters spell a text. -/
theorem mapM_id_map_some (s : List Char) : (s.map some).mapM id = some s := by
  induction s with
  | nil => rfl
  | cons c s ih => simp [ih]

/-- A spelled text is read as the text that it spells. -/
theorem text_spelled {s t : List Char} (h : SpellsText s t) (rest : List Symbol) :
    text (s.map some ++ some '"' :: rest) = .ok (String.ofList t, rest) := by
  rw [text, textSymbols_spelled h]
  simp only [bind, Except.bind, mapM_id_map_some]
  rfl

/-- A text that does not matter is passed up to its closing quote. -/
theorem passText_append {s : List Char} (h : IsText s) (rest : List Symbol) :
    passText (s.map some ++ some '"' :: rest) = .ok rest := by
  induction h with
  | nil =>
    rw [List.map_nil, List.nil_append, passText]
    rfl
  | plain hc _ ih =>
    rw [List.map_cons, List.cons_append, passText]
    simp [hc.1, hc.2.1, isControl, Nat.not_lt.mpr hc.2.2, ih]
  | @named d s hd _ ih =>
    obtain ⟨c, hc⟩ := Option.isSome_iff_exists.mp hd
    have hescape : looseEscape (some d :: (s.map some ++ some '"' :: rest)) = .ok 1 := by
      simp [looseEscape, hc, ne_of_namedEscape? hc]
    rw [List.map_cons, List.cons_append, List.map_cons, List.cons_append, passText]
    simp [hescape, ih]
  | @hex digits n s hn _ ih =>
    have hescape : looseEscape (some 'u' :: (digits.map some ++ (s.map some ++ some '"' :: rest))) =
        .ok 5 := by
      rw [looseEscape, if_pos rfl, fourDigits_append hn]
      rfl
    simp only [List.cons_append, List.map_cons, List.map_append, List.append_assoc]
    rw [passText]
    simp [hescape, hn.drop_append, ih]

/-- A hexadecimal digit stands for its number. -/
theorem hexDigit?_hexDigit : ∀ n < 16, hexDigit? (hexDigit n) = some n := by decide

/-- What is written for a character spells it. -/
theorem spellsText_escapeChar (c : Char) {s t : List Char} (h : SpellsText s t) :
    SpellsText (escapeChar c ++ s) (c :: t) := by
  by_cases hnames : c = '"' ∨ c = '\\' ∨ c = '\n' ∨ c = '\r' ∨ c = '\t' ∨ c = '\x08' ∨ c = '\x0c'
  · rcases hnames with rfl | rfl | rfl | rfl | rfl | rfl | rfl <;> exact .named rfl h
  · simp only [not_or] at hnames
    obtain ⟨hquote, hslash, hfeed, hreturn, htab, hback, hform⟩ := hnames
    rw [escapeChar]
    simp only [hquote, hslash, hfeed, hreturn, htab, hback, hform, if_false]
    split
    case isTrue hcontrol =>
      have hzero : hexDigit? '0' = some 0 := by decide
      have hdigits := IsHex.mk hzero hzero (hexDigit?_hexDigit (c.toNat / 16) (by omega))
        (hexDigit?_hexDigit (c.toNat % 16) (by omega))
      have hnumber : 16 * (16 * (16 * 0 + 0) + c.toNat / 16) + c.toNat % 16 = c.toNat := by omega
      rw [hnumber] at hdigits
      exact .basic hdigits h
    case isFalse hvisible => exact .plain ⟨hquote, hslash, Nat.not_lt.mp hvisible⟩ h

/-- What is written for a text spells it. -/
theorem spellsText_escaped (s : List Char) : SpellsText (s.flatMap escapeChar) s := by
  induction s with
  | nil => exact .nil
  | cons c s ih => exact spellsText_escapeChar c ih

/-- A written text is read up to its closing quote. -/
theorem text_escaped (s : String) (rest : List Symbol) :
    text ((s.toList.flatMap escapeChar).map some ++ some '"' :: rest) = .ok (s, rest) := by
  rw [text_spelled (spellsText_escaped s.toList), String.ofList_toList]

end Folio.Json
