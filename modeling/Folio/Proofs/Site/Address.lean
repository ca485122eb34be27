import Mathlib.Data.List.TakeWhile
import Folio.Proofs.Text.Percent
import Folio.Proofs.Text.Utf8
import Folio.Site.Address

/-!
# The address of a post

A slug is put behind the path of the listing, percent-encoded. Such a path is one under which there
is a page: an encoded slug has no slash and ends no path, and unless it is itself a dot segment it
is not taken for one.
-/

namespace Folio.Site

open Folio.Text (isUnreserved percentByte percentDecode percentEncode)

/-- The bytes of a text are decoded as that text. -/
theorem decodeText_of_percentDecode {s t : List Char}
    (h : percentDecode s = t.flatMap String.utf8EncodeChar) : decodeText s = t := by
  have hbytes : (t.flatMap String.utf8EncodeChar).map UInt8.toNat = t.flatMap Text.charBytes := by
    rw [List.map_flatMap]
    rfl
  rw [decodeText, h, hbytes, Text.lossy_flatMap_charBytes]

/-- An encoded text is decoded as that text. -/
theorem decodeText_percentEncode (s : List Char) : decodeText (percentEncode s) = s :=
  decodeText_of_percentDecode (Text.percentDecode_percentEncode s)

/-- A text without a percent sign is decoded as it is. -/
theorem decodeText_of_not_mem {s : List Char} (h : '%' ∉ s) : decodeText s = s := by
  refine decodeText_of_percentDecode ?_
  induction s with
  | nil => rw [percentDecode, List.flatMap_nil]
  | cons c s ih =>
    simp only [List.mem_cons, not_or] at h
    rw [Text.percentDecode_cons (Ne.symm h.1), ih h.2, List.flatMap_cons]

/-- An encoded text has no character that means something else in an address. -/
theorem not_mem_percentEncode {s : List Char} {c : Char} (hreserved : isUnreserved c = false)
    (hpercent : c ≠ '%') : c ∉ percentEncode s := by
  intro hc
  rcases Text.isUnreserved_of_mem_percentEncode hc with h | h
  · rw [hreserved] at h
    cases h
  · exact hpercent h

/-- A character that begins no escape is decoded as itself. -/
theorem decodeText_cons {c : Char} {rest : List Char}
    (h : percentDecode (c :: rest) = String.utf8EncodeChar c ++ percentDecode rest) :
    decodeText (c :: rest) = c :: decodeText rest := by
  have hbytes : (String.utf8EncodeChar c).map UInt8.toNat = Text.charBytes c := rfl
  rw [decodeText, h, List.map_append, hbytes, Text.lossy_charBytes_append]
  rfl

/-- An escape is decoded as at most one character. -/
theorem length_decodeText_of_escape {byte : UInt8} {s rest : List Char}
    (h : percentDecode s = byte :: percentDecode rest) :
    (decodeText s).length ≤ (decodeText rest).length + 1 := by
  rw [decodeText, decodeText, h, List.map_cons]
  exact Text.length_lossy_cons_le _ _

/-- A text that is not decoded as it is gets shorter. -/
theorem decodeText_eq_or_length_lt (s : List Char) :
    decodeText s = s ∨ (decodeText s).length < s.length := by
  have hcons {c : Char} {rest : List Char}
      (h : percentDecode (c :: rest) = String.utf8EncodeChar c ++ percentDecode rest)
      (ih : decodeText rest = rest ∨ (decodeText rest).length < rest.length) :
      decodeText (c :: rest) = c :: rest ∨
        (decodeText (c :: rest)).length < (c :: rest).length := by
    rw [decodeText_cons h]
    rcases ih with ih | ih
    · exact Or.inl (by rw [ih])
    · exact Or.inr (Nat.succ_lt_succ ih)
  fun_induction percentDecode s with
  | case1 =>
    exact Or.inl (by rw [decodeText, percentDecode, List.map_nil, Text.lossy])
  | case2 h l rest a b hl hh ih =>
    right
    have hescape : percentDecode ('%' :: h :: l :: rest) =
        UInt8.ofNat (16 * a + b) :: percentDecode rest := by
      rw [percentDecode]
      simp [hh, hl]
    have hlength := length_decodeText_of_escape hescape
    have hrest : (decodeText rest).length ≤ rest.length := by
      rcases ih with ih | ih
      · exact Nat.le_of_eq (congrArg List.length ih)
      · exact Nat.le_of_lt ih
    simp only [List.length_cons]
    omega
  | case3 h l rest hno ih =>
    refine hcons ?_ ih
    rw [percentDecode]
    split
    · next a b ha hb => exact absurd hb (hno a b ha)
    · rfl
  | case4 c rest hno ih =>
    refine hcons ?_ ih
    rw [percentDecode]
    exact hno

/-- A character is one of two of the same lower case. -/
theorem eq_or_of_toLower_eq {c d : Char} (h : c.toLower = d) :
    c = d ∨ c = Char.ofNat (d.toNat - 32) ∧ 97 ≤ d.toNat ∧ d.toNat ≤ 122 := by
  delta Char.toLower at h
  split at h
  · next hupper =>
    have hlow : 65 ≤ c.val.toNat := hupper.1
    have hhigh : c.val.toNat ≤ 90 := hupper.2
    have hd : d.toNat = c.val.toNat + 32 := by
      subst h
      change (c.val + 32).toNat = c.val.toNat + 32
      rw [UInt32.toNat_add]
      exact Nat.mod_eq_of_lt (show c.val.toNat + 32 < 2 ^ 32 by omega)
    refine Or.inr ⟨?_, by omega⟩
    rw [hd, Nat.add_sub_cancel]
    exact (Char.ofNat_toNat c).symm
  · exact Or.inl h

/-- The characters of dot segments, whatever the case of their letter. -/
theorem toLower_dots {c : Char} :
    (c.toLower = '%' → c = '%') ∧ (c.toLower = '2' → c = '2') ∧ (c.toLower = '.' → c = '.') ∧
      (c.toLower = 'e' → c = 'e' ∨ c = 'E') := by
  refine ⟨?_, ?_, ?_, ?_⟩ <;> intro h <;> rcases eq_or_of_toLower_eq h with h | ⟨h, hletter⟩
  · exact h
  · exact absurd hletter (by decide)
  · exact h
  · exact absurd hletter (by decide)
  · exact h
  · exact absurd hletter (by decide)
  · exact Or.inl h
  · exact Or.inr h

/-- A segment that begins with a dot in lower case begins with one. -/
theorem map_toLower_dot {segment rest : List Char} (h : segment.map Char.toLower = '.' :: rest) :
    ∃ more, segment = '.' :: more ∧ more.map Char.toLower = rest := by
  obtain ⟨c, more, rfl, hc, hmore⟩ := List.map_eq_cons_iff.mp h
  exact ⟨more, by rw [toLower_dots.2.2.1 hc], hmore⟩

/-- A segment that begins with an escaped dot in lower case begins with one in either case. -/
theorem map_toLower_escape {segment rest : List Char}
    (h : segment.map Char.toLower = '%' :: '2' :: 'e' :: rest) :
    ∃ e more, (e = 'e' ∨ e = 'E') ∧ segment = '%' :: '2' :: e :: more ∧
      more.map Char.toLower = rest := by
  obtain ⟨a, _, rfl, ha, h⟩ := List.map_eq_cons_iff.mp h
  obtain ⟨b, _, rfl, hb, h⟩ := List.map_eq_cons_iff.mp h
  obtain ⟨e, more, rfl, he, hmore⟩ := List.map_eq_cons_iff.mp h
  exact ⟨e, more, toLower_dots.2.2.2 he, by rw [toLower_dots.1 ha, toLower_dots.2.1 hb], hmore⟩

/-- A segment that stands for the place itself is decoded as one dot. -/
theorem decodeText_of_isDot {segment : List Char} (h : isDot segment = true) :
    decodeText segment = ['.'] := by
  simp only [isDot, Bool.or_eq_true, decide_eq_true_eq] at h
  simp only [String.reduceToList] at h
  rcases h with rfl | hlower
  · decide +kernel
  · obtain ⟨e, more, he, rfl, hmore⟩ := map_toLower_escape hlower
    obtain rfl := List.map_eq_nil_iff.mp hmore
    rcases he with rfl | rfl <;> decide +kernel

/-- A segment that stands for the place above is decoded as two dots. -/
theorem decodeText_of_isDoubleDot {segment : List Char} (h : isDoubleDot segment = true) :
    decodeText segment = ['.', '.'] := by
  simp only [isDoubleDot, Bool.or_eq_true, decide_eq_true_eq] at h
  simp only [String.reduceToList] at h
  rcases h with ((hlower | hlower) | hlower) | hlower
  · obtain ⟨first, rfl, hfirst⟩ := map_toLower_dot hlower
    obtain ⟨second, rfl, hsecond⟩ := map_toLower_dot hfirst
    obtain rfl := List.map_eq_nil_iff.mp hsecond
    decide +kernel
  · obtain ⟨first, rfl, hfirst⟩ := map_toLower_dot hlower
    obtain ⟨e, second, he, rfl, hsecond⟩ := map_toLower_escape hfirst
    obtain rfl := List.map_eq_nil_iff.mp hsecond
    rcases he with rfl | rfl <;> decide +kernel
  · obtain ⟨e, first, he, rfl, hfirst⟩ := map_toLower_escape hlower
    obtain ⟨second, rfl, hsecond⟩ := map_toLower_dot hfirst
    obtain rfl := List.map_eq_nil_iff.mp hsecond
    rcases he with rfl | rfl <;> decide +kernel
  · obtain ⟨e, first, he, rfl, hfirst⟩ := map_toLower_escape hlower
    obtain ⟨f, second, hf, rfl, hsecond⟩ := map_toLower_escape hfirst
    obtain rfl := List.map_eq_nil_iff.mp hsecond
    rcases he with rfl | rfl <;> rcases hf with rfl | rfl <;> decide +kernel

/-- A text without a separator is one piece. -/
theorem splitAt_of_not_mem {separator : Char} {s : List Char} (h : separator ∉ s) :
    Text.splitAt separator s = [s] := by
  induction s with
  | nil => rfl
  | cons c s ih =>
    simp only [List.mem_cons, not_or] at h
    rw [Text.splitAt, if_neg (Ne.symm h.1), ih h.2]

/-- The first piece of a text ends at the first separator. -/
theorem splitAt_append_cons {separator : Char} {s : List Char} (h : separator ∉ s)
    (rest : List Char) :
    Text.splitAt separator (s ++ separator :: rest) = s :: Text.splitAt separator rest := by
  induction s with
  | nil => rw [List.nil_append, Text.splitAt, if_pos rfl]
  | cons c s ih =>
    simp only [List.mem_cons, not_or] at h
    rw [List.cons_append, Text.splitAt, if_neg (Ne.symm h.1), ih h.2]

/-- A text without a backslash keeps its characters where backslashes count as slashes. -/
theorem map_backslash_of_not_mem {s : List Char} (h : '\\' ∉ s) :
    (s.map fun c => if c = '\\' then '/' else c) = s := by
  refine (List.map_congr_left fun c hc => ?_).trans (List.map_id _)
  rw [if_neg fun hc' : c = '\\' => h (hc' ▸ hc)]
  rfl

/-- The segments under the listing: the listing's and another one, which may be a dot segment. -/
theorem segmentsOf_blog {segment : List Char} (hslash : '/' ∉ segment)
    (hbackslash : '\\' ∉ segment) :
    segmentsOf ("/blog/".toList ++ segment) =
      if isDoubleDot segment then [[]]
      else if isDot segment then ["blog".toList, []]
      else ["blog".toList, segment] := by
  have hmap : ("/blog/".toList ++ segment).map (fun c => if c = '\\' then '/' else c) =
      "/blog/".toList ++ segment :=
    map_backslash_of_not_mem (by simpa using hbackslash)
  have hpieces : Text.splitAt '/' (("/blog/".toList ++ segment).drop 1) =
      ["blog".toList, segment] :=
    (splitAt_append_cons (s := "blog".toList) (by decide) _).trans
      (congrArg _ (splitAt_of_not_mem hslash))
  have hblog : isDot "blog".toList = false ∧ isDoubleDot "blog".toList = false := by decide
  rw [segmentsOf, hmap, hpieces]
  simp only [resolveDots, hblog, Bool.false_eq_true, if_false, List.drop_succ_cons, List.drop_zero,
    List.reverse_cons, List.reverse_nil, List.nil_append, List.singleton_append]

/-- The address of the post of a slug. -/
def postAddress (slug : String) : String :=
  "/blog/" ++ String.ofList (percentEncode slug.toList)

/-- A text that can be the slug in an address: it is not empty and no dot segment. -/
structure IsSegment (slug : String) : Prop where
  ne_empty : slug ≠ ""
  ne_dot : slug ≠ "."
  ne_dots : slug ≠ ".."

variable {slug : String}

/-- There is something to be found for a slug in an address. -/
theorem IsSegment.percentEncode_ne_nil (h : IsSegment slug) : percentEncode slug.toList ≠ [] :=
  Text.percentEncode_ne_nil fun hnil => h.ne_empty (String.toList_eq_nil_iff.mp hnil)

/-- The characters of the address of a post mean nothing but themselves there. -/
theorem not_mem_postPath {c : Char} (hc : c = '?' ∨ c = '#') (slug : String) :
    c ∉ "/blog/".toList ++ percentEncode slug.toList := by
  rw [List.mem_append, not_or]
  rcases hc with rfl | rfl <;>
    exact ⟨by decide, not_mem_percentEncode (by decide) (by decide)⟩

/-- A text without the marks of a query and of a fragment is all path. -/
theorem pathOf_eq_self_iff {s : List Char} : pathOf s = s ↔ '?' ∉ s ∧ '#' ∉ s := by
  rw [pathOf, List.takeWhile_eq_self_iff]
  constructor
  · intro h
    exact ⟨fun hmem => by simpa using h _ hmem, fun hmem => by simpa using h _ hmem⟩
  · rintro ⟨hquery, hfragment⟩ c hc
    have hne : c ≠ '?' ∧ c ≠ '#' := ⟨fun h => hquery (h ▸ hc), fun h => hfragment (h ▸ hc)⟩
    simp [hne]

/-- The address of a post is a path and nothing else. -/
theorem pathOf_postAddress (slug : String) :
    pathOf (postAddress slug).toList = "/blog/".toList ++ percentEncode slug.toList := by
  rw [postAddress, String.toList_append, String.toList_ofList (l := percentEncode slug.toList)]
  exact pathOf_eq_self_iff.mpr
    ⟨not_mem_postPath (Or.inl rfl) slug, not_mem_postPath (Or.inr rfl) slug⟩

/-- There is a page under the address of a post. -/
theorem isPagePath_postAddress (h : IsSegment slug) :
    isPagePath (pathOf (postAddress slug).toList) = true := by
  have hslash : '/' ∉ percentEncode slug.toList := not_mem_percentEncode (by decide) (by decide)
  rw [pathOf_postAddress, isPagePath, Text.dropStart?_append]
  simp [h.percentEncode_ne_nil, hslash]

/-- An encoded slug is no dot segment. -/
theorem not_dots_percentEncode (h : IsSegment slug) :
    isDot (percentEncode slug.toList) = false ∧
      isDoubleDot (percentEncode slug.toList) = false := by
  constructor
  · refine Bool.eq_false_iff.mpr fun hdot => h.ne_dot (String.toList_inj.mp ?_)
    rw [← decodeText_percentEncode slug.toList, decodeText_of_isDot hdot]
    rfl
  · refine Bool.eq_false_iff.mpr fun hdots => h.ne_dots (String.toList_inj.mp ?_)
    rw [← decodeText_percentEncode slug.toList, decodeText_of_isDoubleDot hdots]
    rfl

/-- The segments of the address of a post: the listing's and the encoded slug. -/
theorem segmentsOf_postAddress (h : IsSegment slug) :
    segmentsOf (pathOf (postAddress slug).toList) = ["blog".toList, percentEncode slug.toList] := by
  obtain ⟨hdot, hdots⟩ := not_dots_percentEncode h
  rw [pathOf_postAddress, segmentsOf_blog (not_mem_percentEncode (by decide) (by decide))
    (not_mem_percentEncode (by decide) (by decide)), hdots, hdot]
  rfl

/-- The address of a post leads to the post whose slug is decoded once more. -/
theorem pageOf?_postAddress (h : IsSegment slug) :
    pageOf? (segmentsOf (pathOf (postAddress slug).toList)) =
      some (.post (String.ofList (decodeText slug.toList))) := by
  rw [segmentsOf_postAddress h, pageOf?, pageOf?.postAt, if_pos rfl, decodeText_percentEncode]
  exact h.percentEncode_ne_nil

end Folio.Site
