import Folio.Text.CaseOrbit
import Folio.Text.CharSet
import Mathlib.Data.List.Basic

/-!
# What sets of characters hold

A set is a list of ranges. Joining ranges that overlap or touch changes nothing in what they hold,
and leaves them in order with gaps between them; for ranges in that form the gaps are the
complement. From these two facts come the laws of union, complement and difference. They speak of
code points up to the greatest one, and so of all characters.

The orbit of an ASCII character is the character itself or, for a letter, both its cases; two
letters have a sign beyond ASCII in theirs. So among the ASCII characters those of one orbit are
those with the same small letter.
-/

namespace Folio.Text

/-- A code point lies in a range. -/
def CodeRange.Holds (r : CodeRange) (n : Nat) : Prop := r.lo ≤ n ∧ n ≤ r.hi

/-- A range is not empty and does not go beyond the greatest code point. -/
def CodeRange.IsProper (r : CodeRange) : Prop := r.lo ≤ r.hi ∧ r.hi ≤ CharSet.maxCode

namespace CharSet

/-- All ranges of a set are proper. -/
def IsProper (s : CharSet) : Prop := ∀ r ∈ s.ranges, r.IsProper

/-- Proper ranges that are in order and do not meet. -/
structure Ordered (ranges : List CodeRange) : Prop where
  proper : ∀ r ∈ ranges, r.IsProper
  apart : ranges.Pairwise fun r s => r.hi < s.lo

/-- A set holds a code point exactly if one of its ranges does. -/
theorem containsCode_iff {s : CharSet} {n : Nat} :
    s.containsCode n = true ↔ ∃ r ∈ s.ranges, r.Holds n := by
  simp [containsCode, CodeRange.Holds]

/-- A set of one code point holds that one. -/
@[simp] theorem containsCode_single {n m : Nat} :
    (single n).containsCode m = true ↔ m = n := by
  simp only [containsCode_iff, single, CodeRange.Holds, List.mem_singleton, exists_eq_left]
  omega

/-- A set of one code point is proper. -/
theorem isProper_single {n : Nat} (hn : n ≤ maxCode) : (single n).IsProper := by
  simpa [single, IsProper, CodeRange.IsProper] using hn

/-- What is joined to ranges that begin no earlier holds what all of them hold. -/
theorem exists_mem_joinRanges_iff {r : CodeRange} {ranges : List CodeRange}
    (hsorted : (r :: ranges).Pairwise fun a b => a.lo ≤ b.lo) (n : Nat) :
    (∃ s ∈ joinRanges r ranges, s.Holds n) ↔ ∃ s ∈ r :: ranges, s.Holds n := by
  induction ranges generalizing r with
  | nil => rfl
  | cons s ranges ih =>
    obtain ⟨hr, hrest⟩ := List.pairwise_cons.mp hsorted
    obtain ⟨hs, htail⟩ := List.pairwise_cons.mp hrest
    rw [joinRanges]
    split
    case isTrue htouch =>
      have hjoined : (⟨r.lo, max r.hi s.hi⟩ :: ranges : List CodeRange).Pairwise
          fun a b => a.lo ≤ b.lo :=
        List.pairwise_cons.mpr ⟨fun t ht => hr t (List.mem_cons_of_mem _ ht), htail⟩
      have hlo := hr s List.mem_cons_self
      have hboth : CodeRange.Holds ⟨r.lo, max r.hi s.hi⟩ n ↔ r.Holds n ∨ s.Holds n := by
        simp only [CodeRange.Holds]
        omega
      rw [ih hjoined]
      simp only [List.exists_mem_cons_iff, hboth, or_assoc]
    case isFalse =>
      rw [List.exists_mem_cons_iff, ih hrest, List.exists_mem_cons_iff (a := r)]

/-- Ranges that were joined begin no earlier than the first of them. -/
theorem lo_le_of_mem_joinRanges {r s : CodeRange} {ranges : List CodeRange}
    (hsorted : (r :: ranges).Pairwise fun a b => a.lo ≤ b.lo) (hs : s ∈ joinRanges r ranges) :
    r.lo ≤ s.lo := by
  induction ranges generalizing r with
  | nil => exact Nat.le_of_eq (congrArg CodeRange.lo (List.mem_singleton.mp hs).symm)
  | cons t ranges ih =>
    obtain ⟨hr, hrest⟩ := List.pairwise_cons.mp hsorted
    rw [joinRanges] at hs
    split at hs
    case isTrue =>
      refine ih (r := ⟨r.lo, max r.hi t.hi⟩) ?_ hs
      exact List.pairwise_cons.mpr
        ⟨fun u hu => hr u (List.mem_cons_of_mem _ hu), (List.pairwise_cons.mp hrest).2⟩
    case isFalse =>
      rcases List.mem_cons.mp hs with rfl | hs
      · exact Nat.le_refl _
      · exact Nat.le_trans (hr t List.mem_cons_self) (ih hrest hs)

/-- Ranges that were joined are in order. -/
theorem ordered_joinRanges {r : CodeRange} {ranges : List CodeRange}
    (hsorted : (r :: ranges).Pairwise fun a b => a.lo ≤ b.lo)
    (hproper : ∀ s ∈ r :: ranges, s.IsProper) : Ordered (joinRanges r ranges) := by
  induction ranges generalizing r with
  | nil => exact ⟨hproper, List.pairwise_singleton _ _⟩
  | cons s ranges ih =>
    obtain ⟨hr, hrest⟩ := List.pairwise_cons.mp hsorted
    obtain ⟨hfirst, hlater⟩ := List.forall_mem_cons.mp hproper
    rw [joinRanges]
    split
    case isTrue =>
      apply ih
      · exact List.pairwise_cons.mpr
          ⟨fun t ht => hr t (List.mem_cons_of_mem _ ht), (List.pairwise_cons.mp hrest).2⟩
      · refine List.forall_mem_cons.mpr ⟨?_, fun t ht => hlater t (List.mem_cons_of_mem _ ht)⟩
        have hnext := (hlater s List.mem_cons_self).2
        exact ⟨Nat.le_trans hfirst.1 (Nat.le_max_left _ _), Nat.max_le.mpr ⟨hfirst.2, hnext⟩⟩
    case isFalse hgap =>
      obtain ⟨hjoined, hapart⟩ := ih hrest hlater
      refine ⟨List.forall_mem_cons.mpr ⟨hfirst, hjoined⟩,
        List.pairwise_cons.mpr ⟨fun t ht => ?_, hapart⟩⟩
      have := lo_le_of_mem_joinRanges hrest ht
      omega

/-- A range is put among others. -/
theorem mem_insertRange {r s : CodeRange} {ranges : List CodeRange} :
    s ∈ insertRange r ranges ↔ s = r ∨ s ∈ ranges := by
  induction ranges with
  | nil => rw [insertRange, List.mem_singleton, or_iff_left List.not_mem_nil]
  | cons t ranges ih =>
    rw [insertRange]
    split
    · exact List.mem_cons
    · rw [List.mem_cons, ih, List.mem_cons, or_left_comm]

/-- Sorting keeps the ranges. -/
theorem mem_sortRanges {r : CodeRange} {ranges : List CodeRange} :
    r ∈ sortRanges ranges ↔ r ∈ ranges := by
  induction ranges with
  | nil => rfl
  | cons s ranges ih => rw [sortRanges, mem_insertRange, ih, List.mem_cons]

/-- A range that is put among ranges in order is put at its place. -/
theorem sorted_insertRange {r : CodeRange} {ranges : List CodeRange}
    (h : ranges.Pairwise fun a b => a.lo ≤ b.lo) :
    (insertRange r ranges).Pairwise fun a b => a.lo ≤ b.lo := by
  induction ranges with
  | nil => exact List.pairwise_singleton _ _
  | cons s ranges ih =>
    obtain ⟨hs, hrest⟩ := List.pairwise_cons.mp h
    rw [insertRange]
    split
    case isTrue hle =>
      refine List.pairwise_cons.mpr ⟨List.forall_mem_cons.mpr ⟨hle, fun t ht => ?_⟩, h⟩
      exact Nat.le_trans hle (hs t ht)
    case isFalse hgt =>
      refine List.pairwise_cons.mpr ⟨fun t ht => ?_, ih hrest⟩
      rcases mem_insertRange.mp ht with rfl | ht
      · exact Nat.le_of_not_le hgt
      · exact hs t ht

/-- Sorting puts ranges that begin earlier in front. -/
theorem sorted_sortRanges (ranges : List CodeRange) :
    (sortRanges ranges).Pairwise fun a b => a.lo ≤ b.lo := by
  induction ranges with
  | nil => exact List.Pairwise.nil
  | cons r ranges ih => exact sorted_insertRange ih

/-- The set of ranges holds what the ranges hold. -/
theorem containsCode_ofRanges {ranges : List CodeRange} {n : Nat} :
    (ofRanges ranges).containsCode n = true ↔ ∃ r ∈ ranges, r.Holds n := by
  have hmem (r : CodeRange) : r ∈ sortRanges ranges ↔ r ∈ ranges := mem_sortRanges
  have hsorted := sorted_sortRanges ranges
  rw [containsCode_iff, ofRanges]
  simp only [← hmem]
  generalize sortRanges ranges = sorted at hsorted ⊢
  cases sorted with
  | nil => rfl
  | cons r rest => exact exists_mem_joinRanges_iff hsorted n

/-- The set of proper ranges is in order. -/
theorem ordered_ofRanges {ranges : List CodeRange} (hproper : ∀ r ∈ ranges, r.IsProper) :
    Ordered (ofRanges ranges).ranges := by
  have hmem (r : CodeRange) : r ∈ sortRanges ranges → r ∈ ranges := mem_sortRanges.mp
  have hsorted := sorted_sortRanges ranges
  rw [ofRanges]
  generalize sortRanges ranges = sorted at hsorted hmem ⊢
  cases sorted with
  | nil => exact ⟨fun _ h => absurd h List.not_mem_nil, List.Pairwise.nil⟩
  | cons r rest => exact ordered_joinRanges hsorted fun s hs => hproper s (hmem s hs)

/-- A union holds what one of its sets holds. -/
theorem containsCode_unions {sets : List CharSet} {n : Nat} :
    (unions sets).containsCode n = true ↔ ∃ s ∈ sets, s.containsCode n = true := by
  rw [unions, containsCode_ofRanges]
  simp only [containsCode_iff, List.mem_flatMap]
  constructor
  · rintro ⟨r, ⟨s, hs, hr⟩, hn⟩
    exact ⟨s, hs, r, hr, hn⟩
  · rintro ⟨s, hs, r, hr, hn⟩
    exact ⟨r, ⟨s, hs, hr⟩, hn⟩

/-- A union of proper sets is in order. -/
theorem ordered_unions {sets : List CharSet} (hproper : ∀ s ∈ sets, s.IsProper) :
    Ordered (unions sets).ranges := by
  refine ordered_ofRanges fun r hr => ?_
  obtain ⟨s, hs, hr⟩ := List.mem_flatMap.mp hr
  exact hproper s hs r hr

/-- A union of two sets holds what one of them holds. -/
theorem containsCode_union {s t : CharSet} {n : Nat} :
    (s.union t).containsCode n = (s.containsCode n || t.containsCode n) := by
  rw [Bool.eq_iff_iff, Bool.or_eq_true, union, containsCode_ofRanges, containsCode_iff,
    containsCode_iff]
  simp only [List.mem_append, or_and_right, exists_or]

/-- A union of two proper sets is in order. -/
theorem ordered_union {s t : CharSet} (hs : s.IsProper) (ht : t.IsProper) :
    Ordered (s.union t).ranges := by
  refine ordered_ofRanges fun r hr => ?_
  rcases List.mem_append.mp hr with hr | hr
  · exact hs r hr
  · exact ht r hr

/-- The gaps between ranges in order hold what the ranges do not hold. -/
theorem exists_mem_gaps_iff {start : Nat} {ranges : List CodeRange} (h : Ordered ranges)
    (hstart : ∀ r ∈ ranges, start ≤ r.lo) {n : Nat} (hn : n ≤ maxCode) :
    (∃ r ∈ gaps start ranges, r.Holds n) ↔ start ≤ n ∧ ¬ ∃ r ∈ ranges, r.Holds n := by
  induction ranges generalizing start with
  | nil =>
    rw [gaps]
    split <;> simp [CodeRange.Holds] <;> omega
  | cons r ranges ih =>
    obtain ⟨⟨hlohi, -⟩, hproper⟩ := List.forall_mem_cons.mp h.proper
    obtain ⟨hr, hapart⟩ := List.pairwise_cons.mp h.apart
    have hbehind : ∀ s ∈ ranges, r.hi + 1 ≤ s.lo := hr
    have hrest := ih ⟨hproper, hapart⟩ hbehind
    have hfirst := hstart r List.mem_cons_self
    have hsplit : (∃ s ∈ gaps start (r :: ranges), s.Holds n) ↔
        (start ≤ n ∧ n < r.lo) ∨ (r.hi < n ∧ ¬ ∃ s ∈ ranges, s.Holds n) := by
      rw [gaps]
      split
      case isTrue hgap =>
        rw [List.exists_mem_cons_iff, hrest, Nat.succ_le_iff]
        refine or_congr_left ?_
        simp only [CodeRange.Holds]
        omega
      case isFalse hgap =>
        rw [hrest, Nat.succ_le_iff]
        exact (or_iff_right (by omega)).symm
    -- What lies in front of the first range lies in none of the others.
    have hbefore : n < r.lo → ¬ ∃ s ∈ ranges, s.Holds n := by
      rintro hlt ⟨s, hs, hlo, -⟩
      have := hr s hs
      omega
    rw [hsplit, List.exists_mem_cons_iff, CodeRange.Holds, not_or]
    by_cases hlt : n < r.lo
    · simp only [hbefore hlt, not_false_eq_true, and_true]
      omega
    · constructor
      · rintro (hin | ⟨hin, hnone⟩)
        · exact absurd hin.2 hlt
        · exact ⟨by omega, by omega, hnone⟩
      · rintro ⟨-, hout, hnone⟩
        exact Or.inr ⟨by omega, hnone⟩

/-- A complement holds what the set does not hold. -/
theorem containsCode_compl {s : CharSet} (h : Ordered s.ranges) {n : Nat} (hn : n ≤ maxCode) :
    s.compl.containsCode n = !s.containsCode n := by
  have hiff := exists_mem_gaps_iff h (fun r _ => Nat.zero_le r.lo) hn
  rw [Bool.eq_iff_iff, Bool.not_eq_true', ← Bool.not_eq_true, containsCode_iff, containsCode_iff,
    compl, hiff]
  simp

/-- The gaps between ranges are not empty, and the ranges with them are in order. -/
theorem ordered_gaps {start : Nat} {ranges : List CodeRange} (h : Ordered ranges)
    (hstart : ∀ r ∈ ranges, start ≤ r.lo) :
    Ordered (gaps start ranges) ∧ ∀ r ∈ gaps start ranges, start ≤ r.lo := by
  induction ranges generalizing start with
  | nil =>
    rw [gaps]
    split
    case isTrue hle =>
      exact ⟨⟨by simpa [CodeRange.IsProper] using hle, List.pairwise_singleton _ _⟩, by simp⟩
    case isFalse => exact ⟨⟨by simp, List.Pairwise.nil⟩, by simp⟩
  | cons r ranges ih =>
    obtain ⟨⟨hlohi, hbound⟩, hproper⟩ := List.forall_mem_cons.mp h.proper
    obtain ⟨hr, hapart⟩ := List.pairwise_cons.mp h.apart
    have hbehind : ∀ s ∈ ranges, r.hi + 1 ≤ s.lo := hr
    obtain ⟨hordered, hlater⟩ := ih ⟨hproper, hapart⟩ hbehind
    have hfirst := hstart r List.mem_cons_self
    rw [gaps]
    split
    case isTrue hgap =>
      refine ⟨⟨List.forall_mem_cons.mpr ⟨?_, hordered.proper⟩,
        List.pairwise_cons.mpr ⟨fun s hs => ?_, hordered.apart⟩⟩,
        List.forall_mem_cons.mpr ⟨Nat.le_refl _, fun s hs => ?_⟩⟩
      · change start ≤ r.lo - 1 ∧ r.lo - 1 ≤ maxCode
        omega
      · change r.lo - 1 < s.lo
        have := hlater s hs
        omega
      · have := hlater s hs
        omega
    case isFalse =>
      refine ⟨hordered, fun s hs => ?_⟩
      have := hlater s hs
      omega

/-- A complement is in order. -/
theorem ordered_compl {s : CharSet} (h : Ordered s.ranges) : Ordered s.compl.ranges :=
  (ordered_gaps h fun r _ => Nat.zero_le r.lo).1

/-- A difference holds what the first set holds and the second does not. -/
theorem containsCode_diff {s t : CharSet} (hs : Ordered s.ranges) (ht : Ordered t.ranges) {n : Nat}
    (hn : n ≤ maxCode) : (s.diff t).containsCode n = (s.containsCode n && !t.containsCode n) := by
  have hordered := ordered_union (ordered_compl hs).proper (ordered_compl (ordered_compl ht)).proper
  rw [diff, inter, containsCode_compl hordered hn, containsCode_union,
    containsCode_compl hs hn, containsCode_compl (ordered_compl ht) hn, containsCode_compl ht hn,
    Bool.not_or, Bool.not_not, Bool.not_not]

/-- A difference is in order. -/
theorem ordered_diff {s t : CharSet} (hs : Ordered s.ranges) (ht : Ordered t.ranges) :
    Ordered (s.diff t).ranges :=
  ordered_compl (ordered_union (ordered_compl hs).proper (ordered_compl (ordered_compl ht)).proper)

end CharSet

/-- The code point of the small letter, for an ASCII letter, and that of the character itself for
all others. -/
def lowerCode (n : Nat) : Nat := if 65 ≤ n ∧ n ≤ 90 then n + 32 else n

/-- The small letter of an ASCII character has that code point. -/
theorem toNat_toLower {c : Char} (hc : c.toNat < 128) : c.toLower.toNat = lowerCode c.toNat := by
  have hall : ∀ n < 128, (Char.ofNat n).toLower.toNat = lowerCode n := by decide +kernel
  have h := hall c.toNat hc
  rwa [Char.ofNat_toNat] at h

/-- Characters within ASCII have the same small letter if its code point is the same. -/
theorem toLower_eq_iff {c d : Char} (hc : c.toNat < 128) (hd : d.toNat < 128) :
    c.toLower = d.toLower ↔ lowerCode c.toNat = lowerCode d.toNat := by
  rw [← Char.toNat_inj, toNat_toLower hc, toNat_toLower hd]

/-- The sign beyond ASCII in the orbit of a small letter. -/
def orbitSign (lower : Nat) : List Nat :=
  if lower = 107 then [0x212A] else if lower = 115 then [0x17F] else []

/-- The orbit of an ASCII character. -/
theorem orbit_eq {n : Nat} (hn : n < 128) :
    orbit n =
      (if 97 ≤ lowerCode n ∧ lowerCode n ≤ 122 then [lowerCode n - 32, lowerCode n] else [n]) ++
        orbitSign (lowerCode n) := by
  have hall : ∀ n < 128, orbit n =
      (if 97 ≤ lowerCode n ∧ lowerCode n ≤ 122 then [lowerCode n - 32, lowerCode n] else [n]) ++
        orbitSign (lowerCode n) := by decide +kernel
  exact hall n hn

/-- The signs in the orbits are no ASCII characters. -/
theorem bounds_of_mem_orbitSign {lower m : Nat} (h : m ∈ orbitSign lower) :
    128 ≤ m ∧ m ≤ CharSet.maxCode := by
  rw [orbitSign] at h
  split at h
  · rw [List.mem_singleton.mp h]
    decide
  · split at h
    · rw [List.mem_singleton.mp h]
      decide
    · cases h

/-- An ASCII character is in the orbit of another if both have the same small letter. -/
theorem mem_orbit_iff {n m : Nat} (hn : n < 128) (hm : m < 128) :
    m ∈ orbit n ↔ lowerCode m = lowerCode n := by
  have hsign : m ∉ orbitSign (lowerCode n) := fun h => by
    have := (bounds_of_mem_orbitSign h).1
    omega
  rw [orbit_eq hn, List.mem_append, or_iff_left hsign]
  split
  case isTrue hletter =>
    rw [List.mem_pair]
    grind [lowerCode]
  case isFalse hletter =>
    rw [List.mem_singleton]
    grind [lowerCode]

namespace CharSet

/-- The orbit of an ASCII character holds the ASCII characters with the same small letter. -/
theorem contains_ofOrbit {x c : Char} (hx : x.toNat < 128) (hc : c.toNat < 128) :
    (ofOrbit x.toNat).contains c = true ↔ x.toLower = c.toLower := by
  rw [contains, ofOrbit, containsCode_ofRanges, toLower_eq_iff hx hc, eq_comm,
    ← mem_orbit_iff hx hc]
  constructor
  · rintro ⟨r, hr, hlo, hhi⟩
    obtain ⟨m, hm, rfl⟩ := List.mem_map.mp hr
    exact Nat.le_antisymm hlo hhi ▸ hm
  · exact fun h => ⟨⟨c.toNat, c.toNat⟩, List.mem_map_of_mem h, Nat.le_refl _, Nat.le_refl _⟩

/-- The orbit of an ASCII character is a set in order. -/
theorem ordered_ofOrbit {n : Nat} (hn : n < 128) : Ordered (ofOrbit n).ranges := by
  refine ordered_ofRanges (List.forall_mem_map.mpr fun m hm => ⟨Nat.le_refl m, ?_⟩)
  rw [orbit_eq hn, List.mem_append] at hm
  rcases hm with hm | hm
  · split at hm
    · rw [List.mem_pair] at hm
      change m ≤ maxCode
      simp only [maxCode]
      omega
    · rw [List.mem_singleton] at hm
      change m ≤ maxCode
      simp only [maxCode]
      omega
  · exact (bounds_of_mem_orbitSign hm).2

end CharSet

end Folio.Text
