import Folio.Proofs.Json.Record

/-!
# Texts that are cut off

A text that is written for a record may be cut at any byte, also within a character. Whatever is
left, its end comes too early: in a word, a text or an escape the next character is missing, and in
a list or an object the closing mark. Only a number that is cut is still a number, and what follows
it is missing.
-/

namespace Folio.Json

open Folio.Text (Symbol byteLength charBytes symbolWidth symbols symbols_charBytes_append
  symbols_take_charBytes)
open Shape (Entry writtenEntries)

/-- What is left of a text that is cut: some of its characters, and behind them some of the bytes of
the next one, which are no character. -/
inductive Cut : List Symbol → List Char → Prop where
  | start (c : Char) (t : List Char) : Cut [] (c :: t)
  | inside {k : Nat} {c : Char} (t : List Char) (hk : k + 1 < c.utf8Size) :
      Cut (List.replicate (k + 1) none) (c :: t)
  | cons (c : Char) {s : List Symbol} {t : List Char} (h : Cut s t) : Cut (some c :: s) (c :: t)

/-- A character of one byte is left or not. -/
theorem Cut.of_cons {c : Char} (hc : c.utf8Size = 1) {s : List Symbol} {t : List Char}
    (h : Cut s (c :: t)) : s = [] ∨ ∃ more, s = some c :: more ∧ Cut more t := by
  cases h with
  | start => exact Or.inl rfl
  | inside _ hk => omega
  | cons _ h => exact Or.inr ⟨_, rfl, h⟩

/-- A text is cut within its first part or behind it. -/
theorem Cut.append {s : List Symbol} {t u : List Char} (h : Cut s (t ++ u)) :
    Cut s t ∨ ∃ more, s = t.map some ++ more ∧ Cut more u := by
  induction t generalizing s with
  | nil => exact Or.inr ⟨s, rfl, h⟩
  | cons c t ih =>
    cases h with
    | start => exact Or.inl (.start c t)
    | inside _ hk => exact Or.inl (.inside t hk)
    | cons _ hrest =>
      rcases ih hrest with hfirst | ⟨more, rfl, hmore⟩
      · exact Or.inl (.cons c hfirst)
      · exact Or.inr ⟨more, rfl, hmore⟩

/-- A cut text has fewer bytes. -/
theorem Cut.byteLength_lt {s : List Symbol} {t : List Char} (h : Cut s t) :
    byteLength s < byteLength (t.map some) := by
  induction h with
  | start c t =>
    have hc := c.utf8Size_pos
    simp only [List.map_cons, byteLength, symbolWidth]
    omega
  | @inside k c t hk =>
    have hlength : ∀ n, byteLength (List.replicate n none) = n := by
      intro n
      induction n with
      | zero => rfl
      | succ n ih => rw [List.replicate_succ, byteLength, ih, symbolWidth, Nat.add_comm]
    rw [hlength, List.map_cons, byteLength, symbolWidth]
    omega
  | cons c _ ih =>
    simp only [List.map_cons, byteLength]
    omega

/-- What is left of what may stand behind a value may stand there too. -/
theorem Cut.endsValue {s : List Symbol} {t : List Char} (h : Cut s t)
    (ht : EndsValue (t.map some)) : EndsValue s := by
  cases h with
  | start c t => intro d hd; cases hd
  | @inside k c t hk =>
    have hc : c.utf8Size = 1 := by
      rcases ht.head with h | h | h | h | h | h | h <;> rw [Option.some.inj h] <;> decide
    omega
  | cons c h =>
    intro d hd
    exact ht d hd

/-- A word that is cut is not passed. -/
theorem passWord_cut {word : List Char} (hword : (word.all fun c => c.utf8Size = 1) = true)
    {s : List Symbol} (h : Cut s word) : passWord word s = .error .endOfText := by
  induction word generalizing s with
  | nil => cases h
  | cons c word ih =>
    simp only [List.all_cons, Bool.and_eq_true, decide_eq_true_eq] at hword
    rcases h.of_cons hword.1 with rfl | ⟨more, rfl, hmore⟩
    · rfl
    · rw [passWord, if_pos rfl]
      exact ih hword.2 hmore

/-- A letter behind a backslash has one byte. -/
theorem utf8Size_of_namedEscape? {d c : Char} (h : namedEscape? d = some c) : d.utf8Size = 1 := by
  unfold namedEscape? at h
  split at h
  case h_9 => cases h
  all_goals decide

/-- A hexadecimal digit has one byte. -/
theorem utf8Size_of_hexDigit? {c : Char} {n : Nat} (h : Text.hexDigit? c = some n) :
    c.utf8Size = 1 := by
  rw [Char.utf8Size_eq_one_iff]
  have hbound {d : Char} (hd : d.val ≤ 127) (hcd : c ≤ d) : c.val ≤ 127 := UInt32.le_trans hcd hd
  unfold Text.hexDigit? at h
  simp only [Bool.and_eq_true, decide_eq_true_eq] at h
  split at h
  case isTrue hc => exact hbound (by decide) hc.2
  split at h
  case isTrue hc => exact hbound (by decide) hc.2
  split at h
  case isTrue hc => exact hbound (by decide) hc.2
  case isFalse => cases h

/-- Digits that are cut are too few. -/
theorem fourDigits_cut {digits : List Char} {n : Nat} (hdigits : IsHex digits n) {s : List Symbol}
    (h : Cut s digits) : fourDigits s = .error .endOfText := by
  have hlength := h.byteLength_lt
  obtain ⟨ha, hb, hc, hd⟩ := hdigits
  simp only [List.map_cons, List.map_nil, byteLength, symbolWidth, utf8Size_of_hexDigit? ha,
    utf8Size_of_hexDigit? hb, utf8Size_of_hexDigit? hc, utf8Size_of_hexDigit? hd] at hlength
  rw [fourDigits, if_pos (by omega)]

/-- An escape that is faulty is a fault of the text. -/
theorem textSymbols_escape_error {s : List Symbol} {fault : Fault} (h : escape s = .error fault) :
    textSymbols (some '\\' :: s) = .error fault := by
  rw [textSymbols]
  simp [h]

/-- An escape by digits is cut in its mark or its digits, or behind them. -/
theorem Cut.of_unicode {digits rest : List Char} {n : Nat} (hdigits : IsHex digits n)
    {s : List Symbol} (h : Cut s ('\\' :: 'u' :: (digits ++ rest))) :
    (passWord ['\\', 'u'] s).bind fourDigits = .error .endOfText ∨
      ∃ behind, s = some '\\' :: some 'u' :: (digits.map some ++ behind) ∧ Cut behind rest := by
  rcases h.of_cons (by decide) with rfl | ⟨letter, rfl, hletter⟩
  · exact Or.inl rfl
  rcases hletter.of_cons (by decide) with rfl | ⟨left, rfl, hleft⟩
  · exact Or.inl rfl
  rcases hleft.append with hcut | ⟨behind, rfl, hbehind⟩
  · exact Or.inl (fourDigits_cut hdigits hcut)
  · exact Or.inr ⟨behind, rfl, hbehind⟩

/-- An escape by digits that is faulty is a fault of the text. -/
theorem textSymbols_unicode_error {s : List Symbol} {fault : Fault}
    (h : unicodeEscape s = .error fault) :
    textSymbols (some '\\' :: some 'u' :: s) = .error fault := by
  apply textSymbols_escape_error
  rw [escape, if_pos rfl, h]
  rfl

/-- A text does not end where the mark or the digits of an escape are missing. -/
theorem textSymbols_unicode_short {s : List Symbol}
    (h : (passWord ['\\', 'u'] s).bind fourDigits = .error .endOfText) :
    textSymbols s = .error .endOfText := by
  cases s with
  | nil => rw [textSymbols]
  | cons c s =>
    obtain rfl : c = some '\\' := by
      by_contra hc
      simp [passWord, hc, Except.bind] at h
    cases s with
    | nil => exact textSymbols_escape_error rfl
    | cons c s =>
      obtain rfl : c = some 'u' := by
        by_contra hc
        simp [passWord, hc, Except.bind] at h
      have hdigits : fourDigits s = .error .endOfText := h
      apply textSymbols_unicode_error
      rw [unicodeEscape, hdigits]
      rfl

/-- A first half is no character where the mark or the digits of its second half are missing. -/
theorem unicodeEscape_highHalf_short {high : List Char} {n : Nat} (hhigh : IsHex high n)
    (hn : isHighHalf n = true) {second : List Symbol}
    (h : (passWord ['\\', 'u'] second).bind fourDigits = .error .endOfText) :
    unicodeEscape (high.map some ++ second) = .error .endOfText := by
  rw [unicodeEscape_highHalf hhigh hn]
  cases hmark : passWord ['\\', 'u'] second with
  | error fault => simpa [hmark, Except.bind] using h
  | ok low =>
    have hdigits : fourDigits low = .error .endOfText := by simpa [hmark, Except.bind] using h
    simp [Except.bind, hdigits]

/-- The bytes of a character that is cut are passed, and then the text ends. -/
theorem textSymbols_replicate (n : Nat) :
    textSymbols (List.replicate n none) = .error .endOfText := by
  induction n with
  | zero => rw [List.replicate_zero, textSymbols]
  | succ n ih =>
    rw [List.replicate_succ, textSymbols]
    simp [isControl, ih, Except.map]

/-- A spelled text that is cut before its closing quote does not end. -/
theorem textSymbols_cut {s t : List Char} (h : SpellsText s t) {left : List Symbol}
    (hleft : Cut left (s ++ ['"'])) : textSymbols left = .error .endOfText := by
  induction h generalizing left with
  | nil =>
    rcases hleft.of_cons (by decide) with rfl | ⟨more, -, hmore⟩
    · rw [textSymbols]
    · cases hmore
  | plain hc _ ih =>
    cases hleft with
    | start => rw [textSymbols]
    | inside => exact textSymbols_replicate _
    | cons _ hmore =>
      rw [textSymbols_plain hc, ih hmore]
      rfl
  | @named d c s t hc _ ih =>
    rcases hleft.of_cons (by decide) with rfl | ⟨left₁, rfl, hleft₁⟩
    · rw [textSymbols]
    rcases hleft₁.of_cons (utf8Size_of_namedEscape? hc) with rfl | ⟨left₂, rfl, hleft₂⟩
    · exact textSymbols_escape_error rfl
    have hescape : escape (some d :: left₂) = .ok (c, 1) := by
      simp [escape, hc, ne_of_namedEscape? hc]
    rw [textSymbols_escape hescape, List.drop_one, List.tail_cons, ih hleft₂]
    rfl
  | @basic digits c s t hc _ ih =>
    rw [List.append_assoc] at hleft
    rcases hleft.of_unicode hc with hshort | ⟨behind, rfl, hbehind⟩
    · exact textSymbols_unicode_short hshort
    rw [textSymbols_escape (escape_unicode (unicodeEscape_basic hc behind)), List.drop_succ_cons,
      hc.drop_append, ih hbehind]
    rfl
  | @halves high low c s t hc hhigh hlow _ ih =>
    rw [List.append_assoc, List.append_assoc] at hleft
    rcases hleft.of_unicode hhigh with hshort | ⟨second, rfl, hsecond⟩
    · exact textSymbols_unicode_short hshort
    rcases hsecond.of_unicode hlow with hshort | ⟨behind, rfl, hbehind⟩
    · exact textSymbols_unicode_error
        (unicodeEscape_highHalf_short hhigh (isHighHalf_of_char hc) hshort)
    rw [textSymbols_escape (escape_unicode (unicodeEscape_halves hc hhigh hlow behind)),
      drop_halves hhigh hlow, ih hbehind]
    rfl

/-- A spelled text that is cut before its closing quote is not read. -/
theorem text_cut {s t : List Char} (h : SpellsText s t) {left : List Symbol}
    (hleft : Cut left (s ++ ['"'])) : Json.text left = .error .endOfText := by
  rw [Json.text, textSymbols_cut h hleft]
  rfl

/-- A digit has one byte. -/
theorem utf8Size_of_isDigit {c : Char} (h : c.isDigit = true) : c.utf8Size = 1 := by
  rw [Char.utf8Size_eq_one_iff]
  simp only [Char.isDigit, Bool.and_eq_true, decide_eq_true_eq] at h
  exact UInt32.le_trans h.2 (by decide)

/-- What is left of a number is nothing or a smaller number. -/
theorem cut_toDigits {n : Nat} {s : List Symbol} (h : Cut s (Nat.toDigits 10 n)) :
    s = [] ∨ ∃ m ≤ n, s = (Nat.toDigits 10 m).map some := by
  have hlast (d : Nat) (hd : d < 10) {left : List Symbol} (hleft : Cut left [d.digitChar]) :
      left = [] := by
    have hdigit : d.digitChar.isDigit = true := by rw [Nat.isDigit_digitChar, decide_eq_true hd]
    rcases hleft.of_cons (utf8Size_of_isDigit hdigit) with rfl | ⟨more, -, hmore⟩
    · rfl
    · cases hmore
  induction n using Nat.strong_induction_on generalizing s with
  | _ n ih =>
    rcases Nat.lt_or_ge n 10 with hn | hn
    · rw [Nat.toDigits_of_lt_base hn] at h
      exact Or.inl (hlast n hn h)
    · rw [Nat.toDigits_of_base_le (by decide) hn] at h
      have hsmaller : n / 10 < n := Nat.div_lt_self (by omega) (by decide)
      rcases h.append with hfirst | ⟨left, rfl, hleft⟩
      · rcases ih (n / 10) hsmaller hfirst with rfl | ⟨m, hm, rfl⟩
        · exact Or.inl rfl
        · exact Or.inr ⟨m, by omega, rfl⟩
      · rw [hlast (n % 10) (Nat.mod_lt n (by decide)) hleft, List.append_nil]
        exact Or.inr ⟨n / 10, hsmaller.le, rfl⟩

/-- Nothing is no value. -/
theorem Shape.read_nil : ∀ shape : Shape, shape.read [] = .error .endOfText
  | .text _ | .flag | .number _ | .list _ | .record _ => by
    simp [Shape.read, Shape.readText, Shape.readFlag, Shape.readNumber, Shape.readList,
      Shape.readRecord, Shape.misfit, dropBlank, throw, throwThe, MonadExceptOf.throw]
  | .optional shape => by
    rw [Shape.read, Shape.readOptional]
    exact Shape.read_nil shape

/-- What is left of a written value that is cut is not read to its end; only a number may be read,
and nothing is behind it. -/
def CutsShort (read : Reader Value) (written : Value) : Prop :=
  ∀ s, Cut s written.print → read s = .error .endOfText ∨
    (∃ n, written = .number n) ∧ ∃ value, read s = .ok (value, [])

namespace Shape

variable {tail : List Char}

/-- What is left of a value begins as the value. -/
theorem exists_eq_cons_of_cut {s : List Symbol} {t : List Char} (h : Cut s t)
    (hstarts : StartsValue t) (hs : s ≠ []) :
    ∃ c more, s = c :: more ∧ isBlank c = false ∧ c ≠ some ']' := by
  obtain ⟨c, more, rfl, hblank, hend, -⟩ := hstarts
  cases h with
  | start => exact absurd rfl hs
  | inside => exact ⟨none, _, List.replicate_succ, rfl, by simp⟩
  | cons => exact ⟨some c, _, rfl, hblank, by simpa using hend⟩

/-- Where a list is cut, there is no next item, or there is one that is cut or behind which it is
cut. -/
theorem nextItem_cut {first : Bool} {part : List Char} (hstarts : StartsValue part)
    {s : List Symbol} (h : Cut s ((if first then part else ',' :: part) ++ tail)) :
    nextItem first s = .error .endOfText ∨
      ∃ left, nextItem first s = .ok (some left) ∧ Cut left (part ++ tail) ∧ left ≠ [] ∧
        left.length ≤ s.length := by
  have hpart : StartsValue (part ++ tail) := by
    obtain ⟨c, more, rfl, hc⟩ := hstarts
    exact ⟨c, more ++ tail, rfl, hc⟩
  have hvisible {left : List Symbol} (hleft : Cut left (part ++ tail)) (hne : left ≠ []) :
      dropBlank left = left ∧ left.head? ≠ some (some ']') := by
    obtain ⟨c, more, rfl, hblank, hend⟩ := exists_eq_cons_of_cut hleft hpart hne
    exact ⟨List.dropWhile_cons_of_neg (by simp [hblank]), by simpa using hend⟩
  cases first with
  | true =>
    rw [if_pos rfl] at h
    by_cases hs : s = []
    · subst hs
      exact Or.inl rfl
    obtain ⟨hdrop, hend⟩ := hvisible h hs
    obtain ⟨c, more, rfl⟩ := List.exists_cons_of_ne_nil hs
    refine Or.inr ⟨c :: more, ?_, h, hs, Nat.le_refl _⟩
    rw [nextItem, hdrop]
    simp only [List.head?_cons, ne_eq, Option.some.injEq] at hend
    simp [hend]
  | false =>
    rw [if_neg Bool.false_ne_true, List.cons_append] at h
    rcases h.of_cons (by decide) with rfl | ⟨left, rfl, hleft⟩
    · exact Or.inl rfl
    by_cases hne : left = []
    · subst hne
      exact Or.inl rfl
    obtain ⟨hdrop, hend⟩ := hvisible hleft hne
    obtain ⟨c, more, rfl⟩ := List.exists_cons_of_ne_nil hne
    refine Or.inr ⟨c :: more, ?_, hleft, hne, by simp⟩
    simp only [List.head?_cons, ne_eq, Option.some.injEq] at hend
    rw [nextItem, dropBlank_cons (by decide)]
    simp [hdrop, hend]

/-- Where a text is cut in a value or behind it, the value is not read to its end, or it is read and
nothing is behind it, or it is found and the text is cut behind it. -/
theorem read_cut {shape : Shape} {written found : Value} (hfits : Fits shape written found)
    (hcut : CutsShort shape.read written) (htail : EndsValue (tail.map some)) {left : List Symbol}
    (hleft : Cut left (written.print ++ tail)) :
    shape.read left = .error .endOfText ∨ (∃ value, shape.read left = .ok (value, [])) ∨
      ∃ behind, shape.read left = .ok (found, behind) ∧ Cut behind tail ∧
        behind.length < left.length := by
  rcases hleft.append with hvalue | ⟨behind, rfl, hbehind⟩
  · rcases hcut left hvalue with hread | ⟨-, hread⟩
    · exact Or.inl hread
    · exact Or.inr (Or.inl hread)
  · have hread := hfits.spells.finds behind (hbehind.endsValue htail)
    refine Or.inr (Or.inr ⟨behind, hread, hbehind, ?_⟩)
    obtain ⟨c, more, hprint, -⟩ := hfits.spells.startsValue
    simp only [hprint, List.length_append, List.map_cons, List.length_cons]
    omega

/-- Behind nothing there is no end of a list. -/
theorem readItems_nil (item : Reader Value) {fuel : Nat} (hfuel : 0 < fuel) :
    readItems item fuel false [] = .error .endOfText := by
  obtain ⟨fuel, rfl⟩ := Nat.exists_eq_succ_of_ne_zero hfuel.ne'
  rw [readItems]
  rfl

/-- A list that is cut has no end. -/
theorem readItems_cut {α : Type} {shape : Shape} {written found : α → Value} {items : List α}
    (hfits : ∀ a ∈ items, Fits shape (written a) (found a))
    (hcut : ∀ a ∈ items, CutsShort shape.read (written a)) (first : Bool) {fuel : Nat}
    {s : List Symbol} (hfuel : s.length < fuel)
    (h : Cut s (commaed first (items.map fun a => (written a).print) ++ [']'])) :
    readItems shape.read fuel first s = .error .endOfText := by
  induction items generalizing first fuel s with
  | nil =>
    obtain ⟨fuel, rfl⟩ := Nat.exists_eq_succ_of_ne_zero (Nat.ne_zero_of_lt hfuel)
    rcases h.of_cons (by decide) with rfl | ⟨more, -, hmore⟩
    · rw [readItems]
      rfl
    · cases hmore
  | cons a items ih =>
    obtain ⟨fuel, rfl⟩ := Nat.exists_eq_succ_of_ne_zero (Nat.ne_zero_of_lt hfuel)
    have ha := hfits a List.mem_cons_self
    have hends : EndsValue
        ((commaed false (items.map fun a => (written a).print) ++ [']']).map some) := by
      rw [List.map_append]
      exact endsValue_commaed _ (endsValue_cons (by decide) _)
    rw [List.map_cons, commaed, List.append_assoc] at h
    rw [readItems]
    rcases nextItem_cut ha.spells.startsValue h with hnext | ⟨left, hnext, hleft, hne, hlength⟩
    · rw [hnext]
      rfl
    have hpositive := List.length_pos_iff.mpr hne
    rw [hnext]
    simp only [bind, Except.bind]
    rcases read_cut ha (hcut a List.mem_cons_self) hends hleft with
      hread | ⟨value, hread⟩ | ⟨behind, hread, hbehind, hmore⟩
    · rw [hread]
    · rw [hread]
      simp only
      rw [readItems_nil _ (by omega)]
    · rw [hread]
      simp only
      rw [ih (fun b hb => hfits b (List.mem_cons_of_mem a hb))
        (fun b hb => hcut b (List.mem_cons_of_mem a hb)) false (by omega) hbehind]

/-- Where an object is cut, there is no next entry, or there is one that is cut or behind which it
is cut. -/
theorem nextEntry_cut {first : Bool} {part : List Char} {s : List Symbol}
    (h : Cut s ((if first then '"' :: part else ',' :: '"' :: part) ++ tail)) :
    nextEntry first s = .error .endOfText ∨
      ∃ left, nextEntry first s = .ok (some left) ∧ Cut left (part ++ tail) ∧
        left.length < s.length := by
  cases first with
  | true =>
    rw [if_pos rfl, List.cons_append] at h
    rcases h.of_cons (by decide) with rfl | ⟨left, rfl, hleft⟩
    · exact Or.inl rfl
    · refine Or.inr ⟨left, ?_, hleft, by simp⟩
      rw [nextEntry, dropBlank_cons (by decide)]
      simp
  | false =>
    rw [if_neg Bool.false_ne_true, List.cons_append] at h
    rcases h.of_cons (by decide) with rfl | ⟨behind, rfl, hbehind⟩
    · exact Or.inl rfl
    rcases hbehind.of_cons (by decide) with rfl | ⟨left, rfl, hleft⟩
    · exact Or.inl rfl
    · refine Or.inr ⟨left, ?_, hleft, by simp only [List.length_cons]; omega⟩
      rw [nextEntry, dropBlank_cons (by decide)]
      simp [dropBlank_cons (show isBlank (some '"') = false by decide)]

/-- Where a text is cut in a name or behind it, the name is not read, or it is read and its colon is
missing, or the text is cut behind the colon. -/
theorem name_cut {name : String} {left : List Symbol}
    (h : Cut left (name.toList.flatMap escapeChar ++ ['"'] ++ ':' :: tail)) :
    Json.text left = .error .endOfText ∨ ∃ behind, Json.text left = .ok (name, behind) ∧
      (passColon behind = .error .endOfText ∨ ∃ value, passColon behind = .ok value ∧
        Cut value tail ∧ value.length < left.length) := by
  rcases h.append with hname | ⟨behind, rfl, hbehind⟩
  · exact Or.inl (text_cut (spellsText_escaped _) hname)
  · refine Or.inr ⟨behind, ?_, ?_⟩
    · rw [List.map_append, List.append_assoc]
      exact text_escaped name behind
    · rcases hbehind.of_cons (by decide) with rfl | ⟨value, rfl, hvalue⟩
      · exact Or.inl rfl
      · refine Or.inr ⟨value, passColon_gap .none value, hvalue, ?_⟩
        simp only [List.length_append, List.length_cons]
        omega

/-- Behind nothing there is no end of an object. -/
theorem readEntries_nil (fields : List FieldReader) {fuel : Nat} (hfuel : 0 < fuel)
    (found : List (String × Value)) :
    readEntries fields fuel false found [] = .error .endOfText := by
  obtain ⟨fuel, rfl⟩ := Nat.exists_eq_succ_of_ne_zero hfuel.ne'
  rw [readEntries]
  rfl

/-- An object that is cut has no end. -/
theorem readEntries_cut {fields : Fields} {entries : List Entry}
    (hfits : ∀ entry ∈ entries, ∃ shape absent, fields.lookup entry.name = some (shape, absent) ∧
      Fits shape entry.written entry.found ∧ CutsShort shape.read entry.written)
    (earlier : List (String × Value))
    (hnodup : (earlier.map Prod.fst ++ entries.map Entry.name).Nodup) (first : Bool) {fuel : Nat}
    {s : List Symbol} (hfuel : s.length < fuel)
    (h : Cut s
      (commaed first (((writtenEntries entries).map bareEntry).map Labelled.text) ++ ['}'])) :
    readEntries (fieldReaders fields) fuel first earlier s = .error .endOfText := by
  induction entries generalizing first fuel earlier s with
  | nil =>
    obtain ⟨fuel, rfl⟩ := Nat.exists_eq_succ_of_ne_zero (Nat.ne_zero_of_lt hfuel)
    rcases h.of_cons (by decide) with rfl | ⟨more, -, hmore⟩
    · rw [readEntries]
      rfl
    · cases hmore
  | cons entry entries ih =>
    obtain ⟨fuel, rfl⟩ := Nat.exists_eq_succ_of_ne_zero (Nat.ne_zero_of_lt hfuel)
    obtain ⟨shape, absent, hfield, hentry, hcut⟩ := hfits entry List.mem_cons_self
    have hends : EndsValue ((commaed false
        (((writtenEntries entries).map bareEntry).map Labelled.text) ++ ['}']).map some) := by
      rw [List.map_append]
      exact endsValue_commaed _ (endsValue_cons (by decide) _)
    have htext : (bareEntry (entry.name, entry.written)).text =
        '"' :: (entry.name.toList.flatMap escapeChar ++ ['"'] ++ ':' :: entry.written.print) := by
      simp [bareEntry, bare, Labelled.text, Padded.text, Gap.none]
    have hnew : earlier.lookup entry.name = none := by
      refine lookup_eq_none_of_notMem fun hmem => ?_
      exact (List.nodup_append.mp hnodup).2.2 _ hmem _ List.mem_cons_self rfl
    rw [writtenEntries, List.map_cons, List.map_cons, List.map_cons, commaed, List.append_assoc,
      htext] at h
    rw [readEntries]
    rcases nextEntry_cut h with hnext | ⟨left, hnext, hleft, hlength⟩
    · rw [hnext]
      rfl
    rw [hnext]
    simp only [bind, Except.bind]
    rw [List.append_assoc, List.cons_append] at hleft
    rcases name_cut hleft with hname | ⟨behind, hname, hcolon⟩
    · rw [hname]
    rw [hname]
    simp only [find?_fieldReaders, hfield, Option.map_some, hnew, Option.isSome_none,
      Bool.false_eq_true, if_false]
    rcases hcolon with hcolon | ⟨value, hcolon, hvalue, hshorter⟩
    · rw [hcolon]
    rw [hcolon]
    simp only
    rcases read_cut hentry hcut hends hvalue with
      hread | ⟨found, hread⟩ | ⟨behind, hread, hbehind, hmore⟩
    · rw [hread]
    · rw [hread]
      simp only
      rw [readEntries_nil _ (by omega)]
    · rw [hread]
      simp only
      rw [ih (fun other hother => hfits other (List.mem_cons_of_mem _ hother))
        _ (by simpa [List.append_assoc] using hnodup) false (by omega) hbehind]

end Shape

/-- What is left of a value is not read if nothing is read behind its first character. -/
theorem Shape.read_cut_cons {shape : Shape} {c : Char} {t : List Char} (hc : c.utf8Size = 1)
    (hread : ∀ left, Cut left t → shape.read (some c :: left) = .error .endOfText)
    {s : List Symbol} (h : Cut s (c :: t)) : shape.read s = .error .endOfText := by
  rcases h.of_cons hc with rfl | ⟨left, rfl, hleft⟩
  · exact Shape.read_nil shape
  · exact hread left hleft

/-- What is left of a value that is not null is read as a value where it may be missing. -/
theorem Shape.readOptional_cut {shape : Shape} {t : List Char} (hstarts : StartsValue t)
    (hnull : t.head? ≠ some 'n') {s : List Symbol} (h : Cut s t) (hs : s ≠ []) :
    (Shape.optional shape).read s = shape.read s := by
  obtain ⟨c, more, rfl, hblank, -⟩ := hstarts
  rw [Shape.read, Shape.readOptional]
  cases h with
  | start => exact absurd rfl hs
  | inside =>
    rw [List.replicate_succ]
    rfl
  | cons =>
    rw [dropBlank_cons hblank]
    split
    case h_1 heq =>
      rw [Option.some.inj (List.cons.inj heq).1] at hnull
      exact absurd rfl hnull
    case h_2 => rfl

/-- What is left of a value that fits a shape is not read to its end. -/
theorem Fits.cutsShort {shape : Shape} {written found : Value} (h : Fits shape written found) :
    CutsShort shape.read written := by
  induction h with
  | text =>
    intro s hs
    rw [Value.print, quoted, List.cons_append] at hs
    refine Or.inl (Shape.read_cut_cons (by decide) (fun left hleft => ?_) hs)
    rw [Shape.read, Shape.readText, dropBlank_cons (by decide)]
    simp only [bind, Except.bind, text_cut (spellsText_escaped _) hleft]
  | flag b =>
    intro s hs
    refine Or.inl ?_
    cases b with
    | true =>
      refine Shape.read_cut_cons (c := 't') (t := "rue".toList) (by decide)
        (fun left hleft => ?_) hs
      rw [Shape.read, Shape.readFlag, dropBlank_cons (by decide)]
      simp only [bind, Except.bind, passWord_cut (by decide) hleft]
    | false =>
      refine Shape.read_cut_cons (c := 'f') (t := "alse".toList) (by decide)
        (fun left hleft => ?_) hs
      rw [Shape.read, Shape.readFlag, dropBlank_cons (by decide)]
      simp only [bind, Except.bind, passWord_cut (by decide) hleft]
  | @number largest n hlargest hn =>
    intro s hs
    rcases cut_toDigits hs with rfl | ⟨m, hm, rfl⟩
    · exact Or.inl (Shape.read_nil _)
    · have hread := Shape.finds_number (Nat.le_trans hm hlargest) (Nat.le_trans hm hn) []
        (by intro c hc; cases hc)
      rw [List.append_nil] at hread
      exact Or.inr ⟨⟨n, rfl⟩, _, hread⟩
  | null shape =>
    intro s hs
    refine Or.inl (Shape.read_cut_cons (c := 'n') (t := "ull".toList) (by decide)
      (fun left hleft => ?_) hs)
    rw [Shape.read, Shape.readOptional, dropBlank_cons (by decide)]
    simp only [bind, Except.bind, passWord_cut (by decide) hleft]
  | present h hnull ih =>
    intro s hs
    by_cases hne : s = []
    · exact Or.inl (hne ▸ Shape.read_nil _)
    · rw [Shape.readOptional_cut h.spells.startsValue hnull hs hne]
      exact ih s hs
  | list items h ih =>
    intro s hs
    rw [print_list, listText, List.cons_append, List.cons_append] at hs
    refine Or.inl (Shape.read_cut_cons (by decide) (fun left hleft => ?_) hs)
    have hitems := Shape.readItems_cut h ih true (Nat.lt_succ_self left.length)
      (by simpa [Function.comp_def, bare, Padded.text, Gap.none] using hleft)
    rw [Shape.read, Shape.readList, dropBlank_cons (by decide)]
    simp only [bind, Except.bind, hitems]
  | @record fields entries all hknown h hnodup hall ih =>
    intro s hs
    rw [print_object, objectText, List.cons_append, List.cons_append] at hs
    refine Or.inl (Shape.read_cut_cons (by decide) (fun left hleft => ?_) hs)
    have hfields : ∀ entry ∈ entries, ∃ shape absent,
        fields.lookup entry.name = some (shape, absent) ∧
          Fits shape entry.written entry.found ∧ CutsShort shape.read entry.written := by
      intro entry hentry
      obtain ⟨⟨shape, absent⟩, hfield⟩ := Option.isSome_iff_exists.mp (hknown entry hentry)
      exact ⟨shape, absent, hfield, h entry hentry shape absent hfield,
        ih entry hentry shape absent hfield⟩
    have hentries := Shape.readEntries_cut hfields [] hnodup true (Nat.lt_succ_self left.length)
      (by simpa [Gap.none] using hleft)
    rw [Shape.read, Shape.readRecord, dropBlank_cons (by decide)]
    simp only [bind, Except.bind, hentries]

namespace Record

/-- What the bytes of a text that is cut are read as. -/
theorem cut_symbols_take {t : List Char} {n : Nat} (h : n < (textBytes t).length) :
    Cut (symbols ((textBytes t).take n)) t := by
  induction t generalizing n with
  | nil => cases h
  | cons c t ih =>
    have hlength : (charBytes c).length = c.utf8Size := by
      rw [charBytes, List.length_map, String.length_utf8EncodeChar]
    rw [textBytes, List.flatMap_cons, ← textBytes] at h ⊢
    rw [List.length_append, hlength] at h
    by_cases hn : n < c.utf8Size
    · rw [List.take_append_of_le_length (by omega), symbols_take_charBytes hn]
      cases n with
      | zero => exact .start c t
      | succ n => exact .inside t hn
    · rw [List.take_append, List.take_of_length_le (by omega), symbols_charBytes_append, hlength]
      exact .cons c (ih (by omega))

variable {α : Type} [Record α]

/-- The text of a record that is cut at any byte ends too early. -/
theorem Fitted.parse_cut (h : Fitted α) {a : α} (ha : ∀ n, write a ≠ .number n) {n : Nat}
    (hn : n < (textBytes (print a)).length) :
    (parse (symbols ((textBytes (print a)).take n)) : Except Fault α) = .error .endOfText := by
  obtain ⟨found, hfound⟩ := h
  have hcut := cut_symbols_take hn
  rcases (hfound a).1.cutsShort _ hcut with hread | ⟨⟨m, hnumber⟩, -⟩
  · rw [parse, Shape.parse, hread]
    rfl
  · exact absurd hnumber (ha m)

end Record

end Folio.Json
