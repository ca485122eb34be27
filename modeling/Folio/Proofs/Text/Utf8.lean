import Folio.Text.Symbol

/-!
# Characters and their bytes

The symbols of the bytes of characters are those characters: no byte of a character begins another
one, and each character is written with as few bytes as it needs. So the bytes of a text are read as
that text; of any other bytes, one more makes at most one character more.
-/

namespace Folio.Text

/-- A character is found again by its code point. -/
theorem encoded?_toNat {c : Char} {least : Nat} (h : least ≤ c.toNat) :
    encoded? least c.toNat = some c := by
  have hvalid : c.toNat.isValidChar := c.valid
  rw [encoded?, dif_pos hvalid, if_pos h]
  rfl

/-- The largest code point. -/
theorem toNat_lt (c : Char) : c.toNat < 0x110000 := by
  have hvalid : c.toNat < 0xD800 ∨ 0xDFFF < c.toNat ∧ c.toNat < 0x110000 := c.valid
  omega

/-- The low bits of a byte that continues a character. -/
theorem continuation?_add {n : Nat} (h : n < 64) : continuation? (n + 128) = some n := by
  simp [continuation?]
  omega

/-- The bytes of a character, as numbers. -/
def charBytes (c : Char) : List Nat := (String.utf8EncodeChar c).map UInt8.toNat

/-- A character of one byte. -/
theorem charBytes_one {c : Char} (h : c.toNat < 0x80) : charBytes c = [c.toNat] := by
  have hval : c.val.toNat = c.toNat := rfl
  rw [charBytes, String.utf8EncodeChar]
  simp only [hval, show c.toNat ≤ 127 by omega, if_true, List.map_cons, List.map_nil,
    UInt8.toNat_ofNat']
  rw [Nat.mod_eq_of_lt (by omega)]

/-- A character of two bytes. -/
theorem charBytes_two {c : Char} (hlow : 0x80 ≤ c.toNat) (hhigh : c.toNat < 0x800) :
    charBytes c = [c.toNat / 64 + 192, c.toNat % 64 + 128] := by
  have hval : c.val.toNat = c.toNat := rfl
  rw [charBytes, String.utf8EncodeChar]
  simp only [hval, show ¬ c.toNat ≤ 127 by omega, show c.toNat ≤ 2047 by omega, if_true, if_false,
    List.map_cons, List.map_nil, UInt8.toNat_ofNat', List.cons.injEq, and_true]
  omega

/-- A character of three bytes. -/
theorem charBytes_three {c : Char} (hlow : 0x800 ≤ c.toNat) (hhigh : c.toNat < 0x10000) :
    charBytes c = [c.toNat / 4096 + 224, c.toNat / 64 % 64 + 128, c.toNat % 64 + 128] := by
  have hval : c.val.toNat = c.toNat := rfl
  rw [charBytes, String.utf8EncodeChar]
  simp only [hval, show ¬ c.toNat ≤ 127 by omega, show ¬ c.toNat ≤ 2047 by omega,
    show c.toNat ≤ 65535 by omega, if_true, if_false, List.map_cons, List.map_nil,
    UInt8.toNat_ofNat', List.cons.injEq, and_true]
  omega

/-- A character of four bytes. -/
theorem charBytes_four {c : Char} (h : 0x10000 ≤ c.toNat) :
    charBytes c = [c.toNat / 262144 + 240, c.toNat / 4096 % 64 + 128, c.toNat / 64 % 64 + 128,
      c.toNat % 64 + 128] := by
  have hval : c.val.toNat = c.toNat := rfl
  have hmax : c.toNat < 0x110000 := toNat_lt c
  rw [charBytes, String.utf8EncodeChar]
  simp only [hval, show ¬ c.toNat ≤ 127 by omega, show ¬ c.toNat ≤ 2047 by omega,
    show ¬ c.toNat ≤ 65535 by omega, if_false, List.map_cons, List.map_nil, UInt8.toNat_ofNat',
    List.cons.injEq, and_true]
  omega

/-- The character at the start of its bytes. -/
theorem leadingChar?_charBytes (c : Char) (rest : List Nat) :
    ∃ byte more, charBytes c = byte :: more ∧
      leadingChar? byte (more ++ rest) = some (c, more.length) := by
  by_cases hone : c.toNat < 0x80
  · refine ⟨_, _, charBytes_one hone, ?_⟩
    rw [leadingChar?.eq_def, if_pos hone, encoded?_toNat (Nat.zero_le _)]
    rfl
  by_cases htwo : c.toNat < 0x800
  · refine ⟨_, _, charBytes_two (by omega) htwo, ?_⟩
    have hlow := continuation?_add (show c.toNat % 64 < 64 by omega)
    have hnumber : (c.toNat / 64 + 192) % 32 * 64 + c.toNat % 64 = c.toNat := by omega
    have hsecond : encoded? 0x80 c.toNat = some c := encoded?_toNat (by omega)
    have hclass : (c.toNat / 64 + 192) / 16 = 12 ∨ (c.toNat / 64 + 192) / 16 = 13 := by omega
    rw [leadingChar?.eq_def, if_neg (by omega)]
    rcases hclass with hclass | hclass <;>
      simp [hclass, hlow, hnumber, hsecond]
  by_cases hthree : c.toNat < 0x10000
  · refine ⟨_, _, charBytes_three (by omega) hthree, ?_⟩
    have hmiddle := continuation?_add (show c.toNat / 64 % 64 < 64 by omega)
    have hlow := continuation?_add (show c.toNat % 64 < 64 by omega)
    have hnumber : ((c.toNat / 4096 + 224) % 16 * 64 + c.toNat / 64 % 64) * 64 + c.toNat % 64 =
        c.toNat := by omega
    have hclass : (c.toNat / 4096 + 224) / 16 = 14 := by omega
    rw [leadingChar?.eq_def, if_neg (by omega)]
    simp [hclass, hmiddle, hlow, hnumber, encoded?_toNat (show 0x800 ≤ c.toNat by omega)]
  · have hmax : c.toNat < 0x110000 := toNat_lt c
    refine ⟨_, _, charBytes_four (by omega), ?_⟩
    have hupper := continuation?_add (show c.toNat / 4096 % 64 < 64 by omega)
    have hmiddle := continuation?_add (show c.toNat / 64 % 64 < 64 by omega)
    have hlow := continuation?_add (show c.toNat % 64 < 64 by omega)
    have hnumber : (((c.toNat / 262144 + 240) % 16 * 64 + c.toNat / 4096 % 64) * 64 +
        c.toNat / 64 % 64) * 64 + c.toNat % 64 = c.toNat := by omega
    have hclass : (c.toNat / 262144 + 240) / 16 = 15 := by omega
    rw [leadingChar?.eq_def, if_neg (by omega)]
    simp [hclass, hupper, hmiddle, hlow, hnumber, encoded?_toNat (show 0x10000 ≤ c.toNat by omega)]

/-- The bytes of a character are one symbol. -/
theorem symbols_charBytes_append (c : Char) (rest : List Nat) :
    symbols (charBytes c ++ rest) = some c :: symbols rest := by
  obtain ⟨byte, more, hbytes, hleading⟩ := leadingChar?_charBytes c rest
  rw [hbytes, List.cons_append, symbols, hleading]
  simp

/-- The symbols of the bytes of characters are those characters. -/
theorem symbols_flatMap_charBytes (s : List Char) : symbols (s.flatMap charBytes) = s.map some := by
  induction s with
  | nil => rw [List.flatMap_nil, symbols, List.map_nil]
  | cons c s ih => rw [List.flatMap_cons, symbols_charBytes_append, ih, List.map_cons]

/-- The bytes that continue a character. -/
theorem bounds_of_continuation {byte : Nat} (h : (continuation? byte).isSome = true) :
    0x80 ≤ byte ∧ byte < 0xC0 := by
  rw [continuation?] at h
  split at h
  · next hrange => simpa using hrange
  · cases h

/-- A byte that continues a character begins none. -/
theorem leadingChar?_of_continuation {byte : Nat} (h : (continuation? byte).isSome = true)
    (rest : List Nat) : leadingChar? byte rest = none := by
  obtain ⟨hlow, hhigh⟩ := bounds_of_continuation h
  have hclass : byte / 16 = 8 ∨ byte / 16 = 9 ∨ byte / 16 = 10 ∨ byte / 16 = 11 := by omega
  rw [leadingChar?.eq_def, if_neg (by omega)]
  rcases hclass with hclass | hclass | hclass | hclass <;> simp [hclass]

/-- A byte that continues a character is a symbol of its own. -/
theorem symbols_cons_continuation {byte : Nat} (h : (continuation? byte).isSome = true)
    (rest : List Nat) : symbols (byte :: rest) = none :: symbols rest := by
  rw [symbols, leadingChar?_of_continuation h]

/-- The bytes that a character takes behind its first one continue it. -/
theorem continuation?_of_leadingChar? {byte more : Nat} {rest : List Nat} {c : Char}
    (h : leadingChar? byte rest = some (c, more)) :
    ∀ b ∈ rest.take more, (continuation? b).isSome = true := by
  rw [leadingChar?.eq_def] at h
  split at h
  case isTrue =>
    simp only [Option.map_eq_some_iff, Prod.mk.injEq] at h
    obtain ⟨_, -, -, rfl⟩ := h
    simp
  case isFalse =>
    split at h
    all_goals simp only [Option.bind_eq_bind, Option.bind_eq_some_iff, Option.pure_def,
      Option.some.injEq, Prod.mk.injEq, reduceCtorEq] at h
    case h_1 | h_2 =>
      obtain ⟨_, hsecond, _, -, -, rfl⟩ := h
      simp [hsecond]
    case h_3 =>
      obtain ⟨_, hsecond, _, hthird, _, -, -, rfl⟩ := h
      simp [hsecond, hthird]
    case h_4 =>
      obtain ⟨_, hsecond, _, hthird, _, hfourth, _, -, -, rfl⟩ := h
      simp [hsecond, hthird, hfourth]

/-- The bytes of a character that is broken off continue it. -/
theorem continuation?_of_brokenTail (byte : Nat) (rest : List Nat) :
    ∀ b ∈ rest.take (brokenTail byte rest), (continuation? b).isSome = true := by
  have hsecond {second : Nat} (h : mayFollow byte second = true) :
      (continuation? second).isSome = true := by
    rw [mayFollow, Bool.and_eq_true] at h
    exact h.1
  match rest with
  | [] => simp
  | [second] =>
    rw [brokenTail]
    split
    case isTrue h => simpa using hsecond h
    case isFalse => simp
  | second :: third :: rest =>
    rw [brokenTail]
    cases h : mayFollow byte second with
    | false => simp
    | true =>
      simp only [Bool.not_true, Bool.false_eq_true, if_false]
      split
      case isTrue hthird =>
        rw [Bool.and_eq_true] at hthird
        simp [hsecond h, hthird.2]
      case isFalse => simp [hsecond h]

/-- The bytes of a character are read as that character. -/
theorem lossy_charBytes_append (c : Char) (rest : List Nat) :
    lossy (charBytes c ++ rest) = c :: lossy rest := by
  obtain ⟨byte, more, hbytes, hleading⟩ := leadingChar?_charBytes c rest
  rw [hbytes, List.cons_append, lossy, hleading]
  simp

/-- The bytes of a text are read as that text. -/
theorem lossy_flatMap_charBytes (s : List Char) : lossy (s.flatMap charBytes) = s := by
  induction s with
  | nil => rw [List.flatMap_nil, lossy]
  | cons c s ih => rw [List.flatMap_cons, lossy_charBytes_append, ih]

/-- A byte that continues a character is replaced where no character goes in front of it. -/
theorem lossy_cons_continuation {byte : Nat} (h : (continuation? byte).isSome = true)
    (rest : List Nat) : lossy (byte :: rest) = '\ufffd' :: lossy rest := by
  obtain ⟨hlow, hhigh⟩ := bounds_of_continuation h
  have hfollow (second : Nat) : mayFollow byte second = false := by
    simp only [mayFollow, if_neg (show byte ≠ 0xE0 by omega), if_neg (show byte ≠ 0xED by omega),
      if_neg (show byte ≠ 0xF0 by omega), if_neg (show byte ≠ 0xF4 by omega),
      decide_eq_false (show ¬ 0xE0 < byte by omega), Bool.false_and, Bool.and_false]
  have htail : brokenTail byte rest = 0 := by
    match rest with
    | [] => rfl
    | [second] => simp [brokenTail, hfollow]
    | second :: third :: rest => simp [brokenTail, hfollow]
  rw [lossy, leadingChar?_of_continuation h, htail]
  rfl

/-- Where bytes that continue a character are passed over, no characters are won. -/
theorem length_lossy_drop_le {more : Nat} {bytes : List Nat}
    (h : ∀ b ∈ bytes.take more, (continuation? b).isSome = true) :
    (lossy (bytes.drop more)).length ≤ (lossy bytes).length := by
  induction more generalizing bytes with
  | zero => exact Nat.le_refl _
  | succ more ih =>
    cases bytes with
    | nil => exact Nat.le_refl _
    | cons byte bytes =>
      rw [List.take_succ_cons, List.forall_mem_cons] at h
      rw [List.drop_succ_cons, lossy_cons_continuation h.1, List.length_cons]
      exact Nat.le_succ_of_le (ih h.2)

/-- A byte makes at most one character more. -/
theorem length_lossy_cons_le (byte : Nat) (bytes : List Nat) :
    (lossy (byte :: bytes)).length ≤ (lossy bytes).length + 1 := by
  rw [lossy]
  cases hleading : leadingChar? byte bytes with
  | some found =>
    have hcontinue := continuation?_of_leadingChar? hleading
    exact Nat.succ_le_succ (length_lossy_drop_le hcontinue)
  | none =>
    have hcontinue := continuation?_of_brokenTail byte bytes
    exact Nat.succ_le_succ (length_lossy_drop_le hcontinue)

/-- One replacement stands for a character that is broken off, and one for each byte that may not
follow. -/
example : lossy [0x61, 0xE2, 0x82, 0x62] = ['a', '\ufffd', 'b'] ∧
    lossy [0xF0, 0x9F, 0xA6] = ['\ufffd'] ∧ lossy [0xED, 0xA0] = ['\ufffd', '\ufffd'] := by
  decide +kernel

/-- A character that was found is found with more bytes behind it. -/
theorem leadingChar?_append {byte n : Nat} {rest : List Nat} {c : Char}
    (h : leadingChar? byte rest = some (c, n)) (more : List Nat) :
    leadingChar? byte (rest ++ more) = some (c, n) ∧ n ≤ rest.length := by
  rw [leadingChar?.eq_def] at h ⊢
  split at h
  case isTrue hascii =>
    simp only [Option.map_eq_some_iff, Prod.mk.injEq] at h
    obtain ⟨d, hd, rfl, rfl⟩ := h
    simp [hascii, hd]
  case isFalse hascii =>
    rw [if_neg hascii]
    split at h
    case h_5 => cases h
    all_goals
      next hclass =>
      have hn := h
      simp only [Option.bind_eq_bind, Option.bind_eq_some_iff, Option.pure_def,
        Option.some.injEq, Prod.mk.injEq] at hn
      refine ⟨by simpa [hclass] using h, ?_⟩
      simp only [List.length_cons]
      first
        | (obtain ⟨_, -, _, -, -, rfl⟩ := hn; omega)
        | (obtain ⟨_, -, _, -, _, -, -, rfl⟩ := hn; omega)
        | (obtain ⟨_, -, _, -, _, -, _, -, -, rfl⟩ := hn; omega)

/-- Bytes that continue a character are symbols of their own. -/
theorem symbols_of_continuation {bytes : List Nat}
    (h : ∀ b ∈ bytes, (continuation? b).isSome = true) :
    symbols bytes = List.replicate bytes.length none := by
  induction bytes with
  | nil => rw [symbols, List.length_nil, List.replicate_zero]
  | cons byte bytes ih =>
    rw [symbols_cons_continuation (h byte List.mem_cons_self),
      ih fun b hb => h b (List.mem_cons_of_mem byte hb), List.length_cons, List.replicate_succ]

/-- Some of the bytes of a character are no character. -/
theorem symbols_take_charBytes {c : Char} {k : Nat} (hk : k < c.utf8Size) :
    symbols ((charBytes c).take k) = List.replicate k none := by
  obtain ⟨byte, more, hbytes, hleading⟩ := leadingChar?_charBytes c []
  have hlength : more.length + 1 = c.utf8Size := by
    rw [← String.length_utf8EncodeChar, ← List.length_map (f := UInt8.toNat), ← charBytes, hbytes,
      List.length_cons]
  rw [List.append_nil] at hleading
  have hcontinue := continuation?_of_leadingChar? hleading
  rw [List.take_length] at hcontinue
  cases k with
  | zero => rw [List.take_zero, symbols, List.replicate_zero]
  | succ k =>
    have hnone : leadingChar? byte (more.take k) = none := by
      cases hcut : leadingChar? byte (more.take k) with
      | none => rfl
      | some found =>
        obtain ⟨d, n⟩ := found
        obtain ⟨hfull, hn⟩ := leadingChar?_append hcut (more.drop k)
        rw [List.take_append_drop, hleading] at hfull
        cases hfull
        rw [List.length_take] at hn
        omega
    rw [hbytes, List.take_succ_cons, symbols, hnone]
    simp only
    rw [symbols_of_continuation fun b hb => hcontinue b (List.mem_of_mem_take hb),
      List.length_take, Nat.min_eq_left (by omega), List.replicate_succ]

end Folio.Text
