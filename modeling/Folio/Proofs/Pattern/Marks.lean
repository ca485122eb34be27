import Folio.Pattern.Match
import Folio.Proofs.Text.CharSet

/-!
# Marks

Marks are of use only if there is one for each place of the text, and every way to move them keeps
it that way. Marks of the same text are joined like sets, and a step depends only on the characters
that it may go over.
-/

namespace Folio.Pattern

open Folio.Text (CharSet)

variable {text : List Char} {marks : Marks}

namespace Marks

/-- There is one mark for each place of a text. -/
def Fits (text : List Char) (marks : Marks) : Prop := marks.length = text.length + 1

/-- Marks for no place. -/
def none (text : List Char) : Marks := List.replicate (text.length + 1) false

/-- Every place of a text has its mark. -/
theorem fits_all (text : List Char) : Fits text (all text) := by simp [Fits, all]

/-- Where all marks are dropped no place is left. -/
theorem map_false (h : Fits text marks) : marks.map (fun _ => false) = none text := by
  rw [List.map_const', h, none]

/-- Joined marks are there for each place. -/
theorem Fits.join {a b : Marks} (ha : Fits text a) (hb : Fits text b) : Fits text (a.join b) := by
  simp_all [Fits, Marks.join]

/-- Marks that leave some out are there for each place. -/
theorem Fits.minus {a b : Marks} (ha : Fits text a) (hb : Fits text b) :
    Fits text (a.minus b) := by
  simp_all [Fits, Marks.minus]

/-- A step leaves a mark for each place. -/
theorem Fits.step (set : CharSet) (h : Fits text marks) : Fits text (marks.step set text) := by
  have hbehind : ∀ (text : List Char) (marks : Marks), text.length ≤ marks.length →
      (behind set text marks).length = text.length := by
    intro text marks hle
    induction text generalizing marks with
    | nil => simp [behind]
    | cons c text ih =>
      cases marks with
      | nil => simp at hle
      | cons m marks => simpa [behind] using ih marks (by simpa using hle)
  rw [Fits, Marks.step, List.length_cons, hbehind text marks (by rw [h]; omega)]

/-- A run leaves as many marks as there were. -/
theorem Fits.run (set : CharSet) (carry : Bool) (h : Fits text marks) :
    Fits text (marks.run set carry text) := by
  induction text generalizing marks carry with
  | nil =>
    obtain ⟨m, rfl⟩ := List.length_eq_one_iff.mp h
    rfl
  | cons c text ih =>
    cases marks with
    | nil => simp [Fits] at h
    | cons m marks =>
      have hrest : Fits text marks := by simpa [Fits] using h
      simpa [Marks.run, Fits] using ih ((m || carry) && set.contains c) hrest

/-- The marks kept at a condition are there for each place. -/
theorem Fits.keep (look : Look) (before : Option Char) (h : Fits text marks) :
    Fits text (marks.keep look before text) := by
  induction text generalizing marks before with
  | nil =>
    obtain ⟨m, rfl⟩ := List.length_eq_one_iff.mp h
    rfl
  | cons c text ih =>
    cases marks with
    | nil => simp [Fits] at h
    | cons m marks =>
      have hrest : Fits text marks := by simpa [Fits] using h
      simpa [Marks.keep, Fits] using ih (Option.some c) hrest

/-- What keeps a mark for each place does so any number of times. -/
theorem Fits.iterate {f : Marks → Marks} (hf : ∀ marks, Fits text marks → Fits text (f marks))
    (n : Nat) (h : Fits text marks) : Fits text (marks.iterate f n) := by
  induction n generalizing marks with
  | zero => exact h
  | succ n ih =>
    rw [Marks.iterate]
    split
    · exact ih (hf marks h)
    · exact h

/-- What keeps a mark for each place does so when it is followed from new places only. -/
theorem Fits.spread {f : Marks → Marks} (hf : ∀ marks, Fits text marks → Fits text (f marks))
    (n : Nat) {found fresh : Marks} (hfound : Fits text found) (hfresh : Fits text fresh) :
    Fits text (Marks.spread f n found fresh) := by
  induction n generalizing found fresh with
  | zero => exact hfound
  | succ n ih =>
    have hnext : Fits text ((f fresh).minus found) := (hf fresh hfresh).minus hfound
    simp only [Marks.spread]
    split
    · exact ih (hfound.join hnext) hnext
    · exact hfound

/-- To join nothing changes nothing. -/
theorem join_none (h : Fits text marks) : marks.join (none text) = marks := by
  have hzip : ∀ (marks : Marks) (n : Nat), marks.length = n →
      marks.join (List.replicate n false) = marks := by
    intro marks n hn
    subst hn
    induction marks with
    | nil => rfl
    | cons m marks ih =>
      simp only [List.length_cons, List.replicate_succ, Marks.join, List.zipWith_cons_cons,
        Bool.or_false] at ih ⊢
      rw [ih]
  exact hzip marks _ h

/-- Nothing is there to be joined to. -/
theorem none_join (h : Fits text marks) : (none text).join marks = marks := by
  rw [Marks.join, List.zipWith_comm]
  simp only [Bool.or_comm]
  exact join_none h

/-- Marks are joined in any grouping. -/
theorem join_assoc (a b c : Marks) : (a.join b).join c = a.join (b.join c) := by
  induction a generalizing b c with
  | nil => simp [Marks.join]
  | cons m a ih =>
    cases b with
    | nil => simp [Marks.join]
    | cons n b =>
      cases c with
      | nil => simp [Marks.join]
      | cons o c => simpa [Marks.join, Bool.or_assoc] using ih b c

/-- A step depends only on which characters of the text are in the set. -/
theorem step_congr {s t : CharSet} (h : ∀ c, s.contains c = t.contains c) (text : List Char)
    (marks : Marks) : marks.step s text = marks.step t text := by
  have hbehind : behind s text marks = behind t text marks := by
    induction text generalizing marks with
    | nil => rfl
    | cons c text ih =>
      cases marks with
      | nil => rfl
      | cons m marks => rw [behind, behind, h, ih]
  rw [step, step, hbehind]

/-- A step over the characters of either of two sets leads where the steps over each of them
lead. -/
theorem step_or {s t u : CharSet} (h : ∀ c, u.contains c = (s.contains c || t.contains c))
    (text : List Char) (marks : Marks) :
    marks.step u text = (marks.step s text).join (marks.step t text) := by
  have hbehind : behind u text marks = (behind s text marks).join (behind t text marks) := by
    induction text generalizing marks with
    | nil => rfl
    | cons c text ih =>
      cases marks with
      | nil => rfl
      | cons m marks =>
        rw [behind, behind, behind, h, ih, Bool.and_or_distrib_left]
        rfl
  rw [step, step, step, hbehind]
  rfl

/-- A step over no character leads nowhere. -/
theorem step_empty {s : CharSet} (hs : ∀ c, s.contains c = false) (h : Fits text marks) :
    marks.step s text = none text := by
  have hfits := h.step s
  rw [none, List.eq_replicate_iff]
  refine ⟨hfits, fun b hb => ?_⟩
  have hbehind : ∀ (text : List Char) (marks : Marks), ∀ b ∈ behind s text marks, b = false := by
    intro text marks
    induction text generalizing marks with
    | nil => simp [behind]
    | cons c text ih =>
      cases marks with
      | nil => simp [behind]
      | cons m marks =>
        rw [behind, hs, Bool.and_false]
        exact List.forall_mem_cons.mpr ⟨rfl, ih marks⟩
  rcases List.mem_cons.mp hb with hb | hb
  · exact hb
  · exact hbehind text marks b hb

end Marks

end Folio.Pattern
