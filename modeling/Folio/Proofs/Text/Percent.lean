import Folio.Text.Percent

/-!
# Percent encoding is undone by decoding

A text is encoded by writing an escape for every byte outside the unreserved characters. What is
written has no characters but these and the percent sign, and decoding it gives the bytes of the
text.
-/

namespace Folio.Text

/-- A character that stands for itself everywhere in an address. -/
def isUnreserved (c : Char) : Bool :=
  c.isAlphanum || c = '-' || c = '.' || c = '_' || c = '~'

/-- A text with escapes for all bytes outside the unreserved characters. -/
def percentEncode (s : List Char) : List Char :=
  s.flatMap fun c => if isUnreserved c then [c] else percentChar c

/-- The percent sign is not unreserved. -/
theorem ne_percent_of_isUnreserved {c : Char} (h : isUnreserved c = true) : c ≠ '%' := by
  rintro rfl
  revert h
  decide

/-- The digits of an escape are read. -/
theorem hexDigit?_upperHexDigit : ∀ n < 16, hexDigit? (upperHexDigit n) = some n := by decide

/-- The digits of an escape are unreserved. -/
theorem isUnreserved_upperHexDigit : ∀ n < 16, isUnreserved (upperHexDigit n) = true := by decide

/-- An encoded text has only unreserved characters and percent signs. -/
theorem isUnreserved_of_mem_percentEncode {s : List Char} {c : Char} (hc : c ∈ percentEncode s) :
    isUnreserved c = true ∨ c = '%' := by
  obtain ⟨d, -, hd⟩ := List.mem_flatMap.mp hc
  split at hd
  · next hplain => exact Or.inl (List.mem_singleton.mp hd ▸ hplain)
  · obtain ⟨byte, -, hbyte⟩ := List.mem_flatMap.mp hd
    have hlt := byte.toNat_lt
    simp only [percentByte, List.mem_cons, List.not_mem_nil, or_false] at hbyte
    rcases hbyte with rfl | rfl | rfl
    · exact Or.inr rfl
    · exact Or.inl (isUnreserved_upperHexDigit _ (by omega))
    · exact Or.inl (isUnreserved_upperHexDigit _ (by omega))

/-- An encoded text is empty only if the text is. -/
theorem percentEncode_ne_nil {s : List Char} (h : s ≠ []) : percentEncode s ≠ [] := by
  obtain ⟨c, s, rfl⟩ := List.exists_cons_of_ne_nil h
  have hbytes : (String.utf8EncodeChar c) ≠ [] := String.utf8EncodeChar_ne_nil
  obtain ⟨byte, bytes, hbytes⟩ := List.exists_cons_of_ne_nil hbytes
  rw [percentEncode, List.flatMap_cons]
  split
  · exact List.cons_ne_nil _ _
  · rw [percentChar, hbytes]
    exact List.cons_ne_nil _ _

/-- A character other than the percent sign stands for its bytes. -/
theorem percentDecode_cons {c : Char} (hc : c ≠ '%') (rest : List Char) :
    percentDecode (c :: rest) = String.utf8EncodeChar c ++ percentDecode rest := by
  rw [percentDecode]
  intro h l more hcons
  exact fun _ => hc hcons

/-- An escape stands for its byte. -/
theorem percentDecode_percentByte_append (byte : UInt8) (rest : List Char) :
    percentDecode (percentByte byte ++ rest) = byte :: percentDecode rest := by
  have hlt := byte.toNat_lt
  have hbyte : 16 * (byte.toNat / 16) + byte.toNat % 16 = byte.toNat := by omega
  rw [percentByte, List.cons_append, List.cons_append, List.cons_append, List.nil_append,
    percentDecode, hexDigit?_upperHexDigit _ (by omega), hexDigit?_upperHexDigit _ (by omega)]
  simp only [hbyte, UInt8.ofNat_toNat]

/-- Escapes stand for their bytes. -/
theorem percentDecode_flatMap_append (bytes : List UInt8) (rest : List Char) :
    percentDecode (bytes.flatMap percentByte ++ rest) = bytes ++ percentDecode rest := by
  induction bytes with
  | nil => rfl
  | cons byte bytes ih =>
    rw [List.flatMap_cons, List.append_assoc, percentDecode_percentByte_append, ih,
      List.cons_append]

/-- An encoded text stands for the bytes of the text. -/
theorem percentDecode_percentEncode (s : List Char) :
    percentDecode (percentEncode s) = s.flatMap String.utf8EncodeChar := by
  induction s with
  | nil => rw [percentEncode, List.flatMap_nil, percentDecode, List.flatMap_nil]
  | cons c s ih =>
    rw [percentEncode] at ih ⊢
    rw [List.flatMap_cons, List.flatMap_cons]
    split
    · next hplain =>
      rw [List.singleton_append, percentDecode_cons (ne_percent_of_isUnreserved hplain), ih]
    · rw [percentChar, percentDecode_flatMap_append, ih]

end Folio.Text
