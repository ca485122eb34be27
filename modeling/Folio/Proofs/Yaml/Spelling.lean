import Folio.Yaml.Value
import Mathlib.Data.List.Basic

/-!
# Texts that spell no other value

A plain scalar is a text if it spells nothing else. A number has no hyphen behind its sign, apart
from the one in front of an exponent, and every named value begins with something else than a digit.
So digits with a hyphen behind them begin a text, as dates do.
-/

namespace Folio.Yaml.Value

/-- A fold that cannot take some element fails where there is one. -/
theorem foldlM_eq_none {α β : Type} {step : β → α → Option β} {a : α}
    (ha : ∀ acc, step acc a = none) {s : List α} (hmem : a ∈ s) (acc : β) :
    s.foldlM step acc = none := by
  induction s generalizing acc with
  | nil => exact absurd hmem List.not_mem_nil
  | cons d s ih =>
    rw [List.foldlM_cons]
    rcases List.mem_cons.mp hmem with rfl | hs
    · rw [ha]
      rfl
    · cases hd : step acc d with
      | none => rfl
      | some next => exact ih hs next

/-- What holds a hyphen is not made of digits. -/
theorem digits?_eq_none {s : List Char} (hmem : '-' ∈ s) : digits? 10 s = none := by
  rw [digits?]
  split
  · rfl
  · exact foldlM_eq_none (fun acc => by simp) hmem 0

/-- A digit is none of the characters that are no digits. -/
theorem ne_of_isDigit {c : Char} (hc : c.isDigit = true) (d : Char) (hd : d.isDigit = false) :
    c ≠ d := by
  rintro rfl
  rw [hc] at hd
  cases hd

/-- What begins with a digit is none of some names that begin with none. -/
theorem contains_eq_false {names : List String}
    (hnames : names.any (fun name => name.toList.head?.any Char.isDigit) = false) {a : Char}
    (ha : a.isDigit = true) (s : List Char) :
    names.contains (String.ofList (a :: s)) = false := by
  rw [← Bool.not_eq_true, List.contains_iff_mem]
  intro hmem
  have hfirst := List.any_eq_false.mp hnames _ hmem
  simp [ha] at hfirst

/-- The small letter of a digit is a digit. -/
theorem isDigit_toLower {c : Char} (hc : c.isDigit = true) : c.toLower.isDigit = true := by
  have hall : ∀ n < 58, 48 ≤ n → (Char.ofNat n).toLower.isDigit = true := by decide
  have hrange : 48 ≤ c.toNat ∧ c.toNat ≤ 57 := by
    simpa [Char.isDigit, UInt32.le_iff_toNat_le] using hc
  have h := hall c.toNat (Nat.lt_succ_of_le hrange.2) hrange.1
  rwa [Char.ofNat_toNat] at h

section Date

variable {a b : Char} (ha : a.isDigit = true) (hb : b.isDigit = true) {digits : List Char}
  (hdigits : ∀ c ∈ digits, c.isDigit = true) (rest : List Char)

include ha in
/-- A digit is no sign. -/
theorem withoutSign_of_isDigit : withoutSign (a :: rest) = a :: rest := by
  rw [withoutSign.eq_def]
  split
  case h_1 heq => exact absurd (List.cons.inj heq).1 (ne_of_isDigit ha _ rfl)
  case h_2 heq => exact absurd (List.cons.inj heq).1 (ne_of_isDigit ha _ rfl)
  case h_3 => rfl

include ha in
/-- Digits with a hyphen behind them are no integer. -/
theorem integer?_digits_hyphen : integer? 10 (a :: (digits ++ '-' :: rest)) = none := by
  have hnone : digits? 10 (a :: (digits ++ '-' :: rest)) = none := digits?_eq_none (by simp)
  rw [integer?.eq_def]
  split
  case h_1 heq => exact absurd (List.cons.inj heq).1 (ne_of_isDigit ha _ rfl)
  case h_2 heq => exact absurd (List.cons.inj heq).1 (ne_of_isDigit ha _ rfl)
  case h_3 => rw [hnone, Option.bind_none]

include ha hdigits in
/-- Digits with a hyphen behind them are no number with a fraction. -/
theorem isReal_digits_hyphen : isReal (a :: (digits ++ '-' :: rest)) = false := by
  have hsign := withoutSign_of_isDigit ha (digits ++ '-' :: rest)
  have hwhole : (a :: (digits ++ '-' :: rest)).takeWhile Char.isDigit = a :: digits := by
    rw [List.takeWhile_cons_of_pos ha, List.takeWhile_append_of_pos hdigits]
    simp
  have hdecimal : isDecimal (a :: (digits ++ '-' :: rest)) = false := by
    simp [isDecimal, hsign, hwhole]
  have hlower := isDigit_toLower ha
  have hspecial : specialReals.contains (String.ofList (a :: (digits ++ '-' :: rest))) = false :=
    contains_eq_false (by decide) ha _
  have hnamed : isNamedReal (a :: (digits ++ '-' :: rest)) = false := by
    rw [isNamedReal, hsign, List.map_cons]
    exact contains_eq_false (by decide) hlower _
  rw [isReal, hspecial, hnamed, hdecimal]
  rfl

include ha hb hdigits in
/-- At least two digits with a hyphen behind them begin a text. -/
theorem ofPlain_digits_hyphen :
    ofPlain (a :: b :: (digits ++ '-' :: rest)) = .text (a :: b :: (digits ++ '-' :: rest)) := by
  have hinteger : integer? 10 (a :: (b :: digits ++ '-' :: rest)) = none :=
    integer?_digits_hyphen ha rest
  have hreal := isReal_digits_hyphen ha (List.forall_mem_cons.mpr ⟨hb, hdigits⟩) rest
  rw [List.cons_append] at hinteger hreal
  have hname (d : Char) (hd : d.isDigit = false) (name : List Char) :
      a :: b :: (digits ++ '-' :: rest) ≠ d :: name := fun heq =>
    ne_of_isDigit ha d hd (List.cons.inj heq).1
  rw [ofPlain]
  case x_1 => exact fun _ heq => ne_of_isDigit hb 'x' rfl (List.cons.inj (List.cons.inj heq).2).1
  case x_2 => exact fun _ heq => ne_of_isDigit hb 'o' rfl (List.cons.inj (List.cons.inj heq).2).1
  case x_3 => exact fun _ heq => hname '+' rfl _ heq
  simp [hname, hinteger, hreal]

end Date

end Folio.Yaml.Value
