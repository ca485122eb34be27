import Folio.Proofs.Json.Grammar
import Mathlib.Algebra.Group.Nat.Defs

/-!
# Numbers in JSON

A natural number is printed without zeros in front, so its digits are read as one number as far as
they go, and what stands behind a value is no digit, point or exponent. A number that does not
matter is passed as far as it goes, however large it is.
-/

namespace Folio.Json

open Folio.Text (Symbol)

/-- The first digit of a number is a zero only if it is the only digit. -/
theorem toDigits_head (n : Nat) :
    ∃ c more, Nat.toDigits 10 n = c :: more ∧ (c = '0' → more = []) := by
  induction n using Nat.strongRecOn with
  | ind n ih =>
    by_cases hn : n < 10
    · exact ⟨n.digitChar, [], Nat.toDigits_of_lt_base hn, fun _ => rfl⟩
    · obtain ⟨c, more, hhead, hzero⟩ := ih (n / 10) (by omega)
      refine ⟨c, more ++ [(n % 10).digitChar], ?_, fun hc => ?_⟩
      · rw [Nat.toDigits_of_base_le (by decide) (by omega), hhead, List.cons_append]
      · -- A number from 10 on has a quotient by 10, whose only digit cannot be a zero.
        have hquotient := Nat.ofDigitChars_toDigits (b := 10) (n := n / 10) (by decide) (by decide)
        rw [hhead, hc, hzero hc] at hquotient
        have : n / 10 = 0 := hquotient.symm
        omega

/-- A printed natural number is a number. -/
theorem isNumber_toDigits (n : Nat) : IsNumber (Nat.toDigits 10 n) := by
  have hdigits : IsDigits (Nat.toDigits 10 n) :=
    ⟨Nat.toDigits_ne_nil, fun c hc => Nat.isDigit_of_mem_toDigits (by decide) (by decide) hc⟩
  have hzero : (Nat.toDigits 10 n).head? = some '0' → Nat.toDigits 10 n = ['0'] := by
    obtain ⟨c, more, heq, honly⟩ := toDigits_head n
    rw [heq, List.head?_cons, Option.some.injEq]
    rintro rfl
    rw [honly rfl]
  have hnumber := IsNumber.mk (Or.inl rfl) hdigits hzero .none .none
  rwa [List.nil_append, List.append_nil, List.append_nil] at hnumber

/-- The symbols of digits in front of a text that does not go on with a digit. -/
theorem leadingDigits_append {digits : List Char} (h : ∀ c ∈ digits, c.isDigit = true)
    {rest : List Symbol} (hrest : rest.takeWhile isDigit = []) :
    leadingDigits (digits.map some ++ rest) = digits.map fun c => c.toNat - 48 := by
  have hdigits : ∀ c ∈ digits.map some, isDigit c = true := by
    simpa [isDigit] using h
  rw [leadingDigits, List.takeWhile_append_of_pos hdigits, hrest, List.append_nil, List.map_map]
  rfl

/-- A longer run of digits is no smaller a number. -/
theorem le_ofDigitChars (digits : List Char) (n : Nat) : n ≤ Nat.ofDigitChars 10 digits n := by
  induction digits generalizing n with
  | nil => exact Nat.le_refl n
  | cons c digits ih => exact Nat.le_trans (by omega) (ih (10 * n + (c.toNat - 48)))

/-- Digits of a number that stays exact are all kept. -/
theorem extend_map {digits : List Char} {n : Nat}
    (h : Nat.ofDigitChars 10 digits n ≤ maxNumber) :
    extend n (digits.map fun c => c.toNat - 48) = (Nat.ofDigitChars 10 digits n, 0) := by
  induction digits generalizing n with
  | nil => rfl
  | cons c digits ih =>
    have hstep : 10 * n + (c.toNat - 48) ≤ maxNumber := Nat.le_trans (le_ofDigitChars digits _) h
    rw [List.map_cons, extend, if_pos hstep]
    exact ih h

/-- Digits of an exact number are read as that number, unless a zero stands in front of others. -/
theorem unsigned_digits {c : Char} {more : List Char} (hdigits : ∀ d ∈ c :: more, d.isDigit = true)
    (hzero : c = '0' → more = []) (hmax : Nat.ofDigitChars 10 (c :: more) 0 ≤ maxNumber)
    {rest : List Symbol} (hrest : EndsValue rest) :
    unsigned (some c :: (more.map some ++ rest)) =
      .ok (some (Nat.ofDigitChars 10 (c :: more) 0), rest) := by
  have hc : isDigit (some c) = true := hdigits c List.mem_cons_self
  have hlone : ¬ (some c = some '0' && (more.map some ++ rest).head?.any isDigit) = true := by
    rw [Bool.and_eq_true, decide_eq_true_eq, Option.some.injEq, not_and]
    intro hczero
    rw [hzero hczero, List.map_nil, List.nil_append]
    cases rest with
    | nil => decide
    | cons d rest =>
      rcases hrest.head with rfl | rfl | rfl | rfl | rfl | rfl | rfl <;> simp [isDigit]
  have hleading := leadingDigits_append hdigits hrest.takeWhile_isDigit
  rw [List.map_cons, List.cons_append] at hleading
  have hdrop : (some c :: (more.map some ++ rest)).drop
      ((c :: more).map fun d => d.toNat - 48).length = rest := by
    rw [List.length_map, List.length_cons, List.drop_succ_cons, ← List.length_map (f := some),
      List.drop_left]
  rw [unsigned, if_neg (by simp [hc]), if_neg hlone, hleading]
  simp only [extend_map hmax, hdrop]
  cases rest with
  | nil => rfl
  | cons d rest => rcases hrest.head with rfl | rfl | rfl | rfl | rfl | rfl | rfl <;> rfl

/-- A printed number is read, as far as it is kept exactly. -/
theorem number_toDigits {n : Nat} (hn : n ≤ maxNumber) {rest : List Symbol}
    (hrest : EndsValue rest) :
    number ((Nat.toDigits 10 n).map some ++ rest) = .ok (some n, rest) := by
  have hvalue : Nat.ofDigitChars 10 (Nat.toDigits 10 n) 0 = n :=
    Nat.ofDigitChars_toDigits (by decide) (by decide)
  have hdigits : ∀ c ∈ Nat.toDigits 10 n, c.isDigit = true := fun c hc =>
    Nat.isDigit_of_mem_toDigits (by decide) (by decide) hc
  obtain ⟨c, more, hhead, hzero⟩ := toDigits_head n
  rw [hhead] at hvalue hdigits ⊢
  have hsign : c ≠ '-' := by
    rintro rfl
    exact absurd (hdigits _ List.mem_cons_self) (by decide)
  rw [List.map_cons, List.cons_append, number]
  · rw [unsigned_digits hdigits hzero (hvalue.symm ▸ hn) hrest, hvalue]
  · rintro _ heq
    exact hsign (Option.some.inj (List.cons.inj heq).1)

/-- Digits are passed as far as they go. -/
theorem passDigits_append {digits : List Char} (h : IsDigits digits) {rest : List Symbol}
    (hrest : rest.takeWhile isDigit = []) : passDigits (digits.map some ++ rest) = .ok rest := by
  have hleading := leadingDigits_append h.2 hrest
  have hsome : (digits.map fun c => c.toNat - 48).isEmpty = false := by simpa using h.1
  rw [passDigits, hleading, hsome, List.length_map, ← List.length_map (f := some), List.drop_left]
  rfl

/-- An exponent is passed. -/
theorem passExponent_append {s : List Char} (h : IsExponent s) {rest : List Symbol}
    (hrest : EndsValue rest) : passExponent (s.map some ++ rest) = .ok rest := by
  cases h with
  | none =>
    cases rest with
    | nil => rfl
    | cons c rest => rcases hrest.head with rfl | rfl | rfl | rfl | rfl | rfl | rfl <;> rfl
  | @some mark sign digits hmark hsign hdigits =>
    have hpass := passDigits_append hdigits hrest.takeWhile_isDigit
    have hmark : (some mark = some 'e' || some mark = some 'E') = true := by simpa using hmark
    rw [List.cons_append, List.map_cons, List.cons_append, List.map_append, List.append_assoc]
    unfold passExponent
    simp only [hmark, if_true]
    rcases hsign with rfl | rfl | rfl
    · obtain ⟨c, digits, rfl⟩ := List.exists_cons_of_ne_nil hdigits.1
      have hc : c.isDigit = true := hdigits.2 c List.mem_cons_self
      rw [List.map_nil, List.nil_append, List.map_cons, List.cons_append] at *
      split
      · next heq =>
        cases heq
        exact absurd hc (by decide)
      · next heq =>
        cases heq
        exact absurd hc (by decide)
      · exact hpass
    · exact hpass
    · exact hpass

/-- What may follow the digits of a number is no digit. -/
theorem takeWhile_isDigit_of_isExponent {s : List Char} (h : IsExponent s) {rest : List Symbol}
    (hrest : EndsValue rest) : (s.map some ++ rest).takeWhile isDigit = [] := by
  cases h with
  | none => exact hrest.takeWhile_isDigit
  | some hmark => rcases hmark with rfl | rfl <;> rfl

/-- A fraction and an exponent are passed. -/
theorem passNumber_tail {fraction exponent : List Char} (hfraction : IsFraction fraction)
    (hexponent : IsExponent exponent) {rest : List Symbol} (hrest : EndsValue rest) :
    (match fraction.map some ++ (exponent.map some ++ rest) with
      | some '.' :: rest => passDigits rest >>= passExponent
      | _ => passExponent (fraction.map some ++ (exponent.map some ++ rest))) = .ok rest := by
  have hpass := passExponent_append hexponent hrest
  cases hfraction with
  | none =>
    rw [List.map_nil, List.nil_append]
    split
    · next heq =>
      exfalso
      cases hexponent with
      | none =>
        rw [List.map_nil, List.nil_append] at heq
        subst heq
        rcases hrest.head with h | h | h | h | h | h | h <;> cases h
      | some hmark => rcases hmark with rfl | rfl <;> cases heq
    · exact hpass
  | some hdigits =>
    have hbehind := passDigits_append hdigits (takeWhile_isDigit_of_isExponent hexponent hrest)
    simp only [List.map_cons, List.cons_append, hbehind, bind, Except.bind]
    exact hpass

/-- A number is passed. -/
theorem passNumber_append {s : List Char} (h : IsNumber s) {rest : List Symbol}
    (hrest : EndsValue rest) : passNumber (s.map some ++ rest) = .ok rest := by
  obtain ⟨hsign, hdigits, hzero, hfraction, hexponent⟩ := h
  rename_i sign digits fraction exponent
  -- What is behind the digits does not go on with one.
  let tail := fraction.map some ++ (exponent.map some ++ rest)
  have htail : tail.takeWhile isDigit = [] := by
    cases hfraction with
    | none => exact takeWhile_isDigit_of_isExponent hexponent hrest
    | some => rfl
  have hpass := passDigits_append hdigits htail
  obtain ⟨c, more, rfl⟩ := List.exists_cons_of_ne_nil hdigits.1
  have hlone : ((((c :: more).map some ++ tail).head? = some (some '0')) &&
      1 < (leadingDigits ((c :: more).map some ++ tail)).length) = false := by
    rw [leadingDigits_append hdigits.2 htail, List.length_map]
    by_cases hc : c = '0'
    · rw [hzero (by rw [hc]; rfl)]
      rfl
    · simp [hc]
  have htext : (sign ++ (c :: more) ++ fraction ++ exponent).map some ++ rest =
      sign.map some ++ ((c :: more).map some ++ tail) := by simp [tail]
  rw [htext]
  rcases hsign with rfl | rfl
  · rw [List.map_nil, List.nil_append, passNumber]
    · simp only [hpass, hlone, bind, Except.bind]
      exact passNumber_tail hfraction hexponent hrest
    · intro _ heq
      cases heq
      exact absurd (hdigits.2 '-' List.mem_cons_self) (by decide)
  · rw [List.map_cons, List.map_nil, List.cons_append, List.nil_append, passNumber]
    simp only [hpass, hlone, bind, Except.bind]
    exact passNumber_tail hfraction hexponent hrest

end Folio.Json
