import Folio.Text.Blank
import Mathlib.Data.List.DropRight

/-!
# Trimming

Trimming cuts off the longest run of a class of characters. So a further character of the class
makes no difference at the end that is trimmed, and a text whose ends are outside of the class is
left as it is. No visible character is blank.
-/

namespace Folio.Text

/-- A last character of the class is cut off with those before it, and any other one ends the
text. -/
theorem dropEndWhile_concat (p : Char → Bool) (s : List Char) (c : Char) :
    dropEndWhile p (s ++ [c]) = if p c then dropEndWhile p s else s ++ [c] := by
  induction s with
  | nil => by_cases hc : p c <;> simp [dropEndWhile, hc]
  | cons d s ih =>
    rw [List.cons_append, dropEndWhile, ih, dropEndWhile]
    by_cases hc : p c
    · rw [if_pos hc, if_pos hc]
    · rw [if_neg hc, if_neg hc]
      cases s <;> rfl

/-- Characters are cut off from the end. -/
theorem dropEndWhile_eq_rdropWhile (p : Char → Bool) (s : List Char) :
    dropEndWhile p s = s.rdropWhile p := by
  induction s using List.reverseRecOn with
  | nil => rfl
  | append_singleton s c ih => rw [dropEndWhile_concat, List.rdropWhile_concat, ih]

/-- A character outside of the class is not cut off. -/
theorem mem_dropEndWhile {p : Char → Bool} {c : Char} (hc : p c = false) {s : List Char}
    (hmem : c ∈ s) : c ∈ dropEndWhile p s := by
  induction s using List.reverseRecOn with
  | nil => exact absurd hmem List.not_mem_nil
  | append_singleton s d ih =>
    rw [dropEndWhile_concat]
    split
    case isTrue hd =>
      rcases List.mem_append.mp hmem with hs | hs
      · exact ih hs
      · rw [List.mem_singleton.mp hs, hd] at hc
        cases hc
    case isFalse => exact hmem

/-- Nothing is cut off behind a character outside of the class. -/
theorem dropEndWhile_eq_self {p : Char → Bool} {s : List Char}
    (h : ∀ c ∈ s.getLast?, p c = false) : dropEndWhile p s = s := by
  induction s using List.reverseRecOn with
  | nil => rfl
  | append_singleton s c =>
    rw [dropEndWhile_concat, if_neg]
    simp [h c List.getLast?_concat]

/-- A text is left as it is if no blank begins or ends it. -/
theorem trim_eq_self {s : List Char} (hfirst : ∀ c ∈ s.head?, isBlank c = false)
    (hlast : ∀ c ∈ s.getLast?, isBlank c = false) : trim s = s := by
  have hstart : trimStart s = s := by
    cases s with
    | nil => rfl
    | cons c s => rw [trimStart, List.dropWhile_cons_of_neg (by simp [hfirst c rfl])]
  rw [trim, hstart, trimEnd, dropEndWhile_eq_self hlast]

/-- A visible ASCII character. -/
def isVisible (c : Char) : Bool := 0x21 ≤ c.toNat && c.toNat ≤ 0x7E

/-- A visible character is not blank. -/
theorem not_isBlank_of_isVisible {c : Char} (h : isVisible c = true) : isBlank c = false := by
  simp only [isVisible, Bool.and_eq_true, decide_eq_true_eq] at h
  simp only [isBlank, Bool.or_eq_false_iff, Bool.and_eq_false_iff, decide_eq_false_iff_not,
    beq_eq_false_iff_ne]
  omega

/-- A digit is visible. -/
theorem isVisible_of_isDigit {c : Char} (h : c.isDigit = true) : isVisible c = true := by
  have hrange : 48 ≤ c.toNat ∧ c.toNat ≤ 57 := by
    simpa [Char.isDigit, UInt32.le_iff_toNat_le] using h
  simp only [isVisible, Bool.and_eq_true, decide_eq_true_eq]
  omega

end Folio.Text
