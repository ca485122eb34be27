import Folio.Proofs.Site.Address

/-!
# Which page an address leads to

There is a page under three kinds of paths, and the page that is shown follows from the segments of
the path. Both agree on every path without a backslash. Dot segments are left out on the way and
texts only get shorter, so a path leads to the post whose slug it ends with only if nothing in that
slug means anything in an address.
-/

namespace Folio.Site

/-- The paths under which there is a page: the front page, the listing, and under it one segment for
each post. -/
inductive IsPage : List Char → Prop where
  | home : IsPage ['/']
  | listing : IsPage "/blog".toList
  | post {segment : List Char} (hne : segment ≠ []) (hslash : '/' ∉ segment) :
    IsPage ("/blog/".toList ++ segment)

/-- The test for a page under a path finds just these paths. -/
theorem isPagePath_iff {path : List Char} : isPagePath path = true ↔ IsPage path := by
  constructor
  · intro h
    rw [isPagePath, Bool.or_eq_true, Bool.or_eq_true, decide_eq_true_eq, decide_eq_true_eq] at h
    rcases h with (rfl | rfl) | h
    · exact .home
    · exact .listing
    · cases hdrop : Text.dropStart? "/blog/".toList path with
      | none =>
        rw [hdrop] at h
        cases h
      | some segment =>
        rw [hdrop] at h
        obtain rfl := Text.dropStart?_eq_some_iff.mp hdrop
        have hsegment : segment ≠ [] ∧ '/' ∉ segment := by simpa using h
        exact .post hsegment.1 hsegment.2
  · rintro (_ | _ | ⟨hne, hslash⟩)
    · rfl
    · rfl
    · rw [isPagePath, Text.dropStart?_append]
      simp [hne, hslash]

/-- A text has at least one piece. -/
theorem splitAt_ne_nil (separator : Char) (s : List Char) : Text.splitAt separator s ≠ [] := by
  cases s with
  | nil => exact List.cons_ne_nil _ _
  | cons c s =>
    rw [Text.splitAt]
    split
    · exact List.cons_ne_nil _ _
    · split <;> exact List.cons_ne_nil _ _

/-- A piece of a text is shorter, unless it is the whole text. -/
theorem eq_or_length_lt_of_mem_splitAt {separator : Char} {s piece : List Char}
    (h : piece ∈ Text.splitAt separator s) :
    (piece = s ∧ separator ∉ s) ∨ piece.length < s.length := by
  induction s generalizing piece with
  | nil => exact Or.inl ⟨List.mem_singleton.mp h, List.not_mem_nil⟩
  | cons c s ih =>
    have hrest {piece : List Char} (h : piece ∈ Text.splitAt separator s) :
        piece.length < (c :: s).length := by
      rcases ih h with ⟨rfl, -⟩ | h
      · exact Nat.lt_succ_self _
      · exact Nat.lt_succ_of_lt h
    rw [Text.splitAt] at h
    split at h
    · rcases List.mem_cons.mp h with rfl | h
      · exact Or.inr (Nat.succ_pos _)
      · exact Or.inr (hrest h)
    · next hc =>
      cases hsplit : Text.splitAt separator s with
      | nil => exact absurd hsplit (splitAt_ne_nil separator s)
      | cons first pieces =>
        rw [hsplit] at h
        rcases List.mem_cons.mp h with rfl | h
        · rcases ih (hsplit ▸ List.mem_cons_self) with ⟨rfl, hmem⟩ | hlt
          · exact Or.inl ⟨rfl, by simp [Ne.symm hc, hmem]⟩
          · exact Or.inr (Nat.succ_lt_succ hlt)
        · exact Or.inr (hrest (hsplit ▸ List.mem_cons_of_mem first h))

/-- Of segments some stay, in their order; behind them there may be an empty one. -/
theorem resolveDots_sublist (dot dots : List Char → Bool) (above segments : List (List Char)) :
    ∃ kept : List (List Char), kept.Sublist (above.reverse ++ segments) ∧
      (resolveDots dot dots above segments = kept ∨
        resolveDots dot dots above segments = kept ++ [[]]) := by
  have hdrop (above : List (List Char)) : (above.drop 1).reverse.Sublist above.reverse :=
    (List.drop_sublist 1 above).reverse
  fun_induction resolveDots dot dots above segments with
  | case1 above => exact ⟨_, by simp, Or.inl rfl⟩
  | case2 above last hdots =>
    exact ⟨_, (hdrop above).trans (List.sublist_append_left _ _), Or.inr (by simp)⟩
  | case3 above last hdots hdot =>
    exact ⟨_, List.sublist_append_left _ _, Or.inr (by simp)⟩
  | case4 above last hdots hdot => exact ⟨_, by simp, Or.inl rfl⟩
  | case5 above segment rest hrest hdots ih =>
    obtain ⟨kept, hkept, hresult⟩ := ih
    exact ⟨kept, hkept.trans ((hdrop above).append (List.sublist_cons_self segment rest)), hresult⟩
  | case6 above segment rest hrest hdots hdot ih =>
    obtain ⟨kept, hkept, hresult⟩ := ih
    exact ⟨kept, hkept.trans ((List.Sublist.refl _).append (List.sublist_cons_self segment rest)),
      hresult⟩
  | case7 above segment rest hrest hdots hdot ih =>
    obtain ⟨kept, hkept, hresult⟩ := ih
    exact ⟨kept, by simpa using hkept, hresult⟩

/-- A segment that is left behind the first one was there behind the first one, if it is not
empty. -/
theorem mem_tail_of_mem_resolveDots {dot dots : List Char → Bool} {segments : List (List Char)}
    {segment : List Char} (hne : segment ≠ [])
    (h : segment ∈ (resolveDots dot dots [] segments).tail) : segment ∈ segments.tail := by
  obtain ⟨kept, hkept, hresult⟩ := resolveDots_sublist dot dots [] segments
  have htail : segment ∈ kept.tail := by
    rcases hresult with hresult | hresult <;> rw [hresult] at h
    · exact h
    · cases kept with
      | nil => cases h
      | cons first kept =>
        exact (List.mem_append.mp h).resolve_right fun h => hne (List.mem_singleton.mp h)
  exact hkept.tail.subset htail

/-- A path without a backslash under which there is a page leads to a page. -/
theorem pageOf?_of_isPage {path : List Char} (h : IsPage path) (hbackslash : '\\' ∉ path) :
    ∃ page, pageOf? (segmentsOf path) = some page := by
  cases h with
  | home => exact ⟨.home, by decide⟩
  | listing => exact ⟨.listing, by decide⟩
  | post hne hslash =>
    rw [List.mem_append, not_or] at hbackslash
    rw [segmentsOf_blog hslash hbackslash.2]
    split
    · exact ⟨_, rfl⟩
    split
    · exact ⟨_, rfl⟩
    · exact ⟨_, by rw [pageOf?, pageOf?.postAt, if_pos rfl]; exact hne⟩

/-- Decoding makes no text longer. -/
theorem length_decodeText_le (s : List Char) : (decodeText s).length ≤ s.length := by
  rcases decodeText_eq_or_length_lt s with h | h
  · exact Nat.le_of_eq (congrArg List.length h)
  · exact Nat.le_of_lt h

/-- The segments of a page of a post: the listing's, and one that is decoded twice as the slug. -/
theorem segments_of_pageOf?_post {segments : List (List Char)} {slug : String}
    (h : pageOf? segments = some (.post slug)) :
    ∃ segment, slug.toList = decodeText (decodeText segment) ∧
      (segments = ["blog".toList, segment] ∨ segments = ["blog".toList, segment, []]) := by
  have hpost {first segment : List Char} (h : pageOf?.postAt first segment = some (.post slug)) :
      first = "blog".toList ∧ slug.toList = decodeText (decodeText segment) := by
    rw [pageOf?.postAt] at h
    split at h
    · next hfirst =>
      cases h
      exact ⟨hfirst, String.toList_ofList⟩
    · cases h
  rw [pageOf?.eq_def] at h
  split at h
  · cases h
  · split at h <;> cases h
  · split at h <;> cases h
  · obtain ⟨rfl, hslug⟩ := hpost h
    exact ⟨_, hslug, Or.inl rfl⟩
  · split at h
    · cases h
    · obtain ⟨rfl, hslug⟩ := hpost h
      exact ⟨_, hslug, Or.inr rfl⟩
  · cases h

/-- The slug of a post under the listing is a piece of the path that is decoded twice, where
backslashes count as slashes. -/
theorem exists_piece_of_pageOf? {rest : List Char} {slug : String} (hne : slug ≠ "")
    (h : pageOf? (segmentsOf ("/blog/".toList ++ rest)) = some (.post slug)) :
    ∃ segment ∈ Text.splitAt '/' (rest.map fun c => if c = '\\' then '/' else c),
      slug.toList = decodeText (decodeText segment) := by
  obtain ⟨segment, hslug, hsegments⟩ := segments_of_pageOf?_post h
  refine ⟨segment, ?_, hslug⟩
  have hsegment : segment ≠ [] := by
    rintro rfl
    rw [decodeText_of_not_mem List.not_mem_nil, decodeText_of_not_mem List.not_mem_nil] at hslug
    exact hne (String.toList_eq_nil_iff.mp hslug)
  have htail : segment ∈ (segmentsOf ("/blog/".toList ++ rest)).tail := by
    rcases hsegments with h | h <;> rw [h] <;> simp
  have hpieces : segmentsOf ("/blog/".toList ++ rest) =
      resolveDots isDot isDoubleDot []
        ("blog".toList :: Text.splitAt '/' (rest.map fun c => if c = '\\' then '/' else c)) :=
    congrArg (resolveDots isDot isDoubleDot [])
      (splitAt_append_cons (s := "blog".toList) (by decide) _)
  rw [hpieces] at htail
  exact mem_tail_of_mem_resolveDots hsegment htail

/-- The post of a path under the listing has no longer slug than the path, and one as long only if
the path ends with it. -/
theorem eq_or_length_lt_of_pageOf? {rest : List Char} {slug : String} (hne : slug ≠ "")
    (h : pageOf? (segmentsOf ("/blog/".toList ++ rest)) = some (.post slug)) :
    (slug.toList = rest ∧ '\\' ∉ rest ∧ decodeText rest = rest) ∨
      slug.toList.length < rest.length := by
  obtain ⟨segment, hmem, hslug⟩ := exists_piece_of_pageOf? hne h
  have honce := length_decodeText_le segment
  have htwice := length_decodeText_le (decodeText segment)
  rw [hslug]
  rcases eq_or_length_lt_of_mem_splitAt hmem with ⟨rfl, hslash⟩ | hlt
  · -- The whole path is one piece, so it has no backslash that would count as a slash.
    have hbackslash : '\\' ∉ rest := fun hbackslash =>
      hslash (List.mem_map.mpr ⟨_, hbackslash, if_pos rfl⟩)
    rw [map_backslash_of_not_mem hbackslash] at hslug htwice ⊢
    rcases decodeText_eq_or_length_lt rest with hdecode | hshort
    · exact Or.inl ⟨by rw [hdecode, hdecode], hbackslash, hdecode⟩
    · exact Or.inr (by omega)
  · rw [List.length_map] at hlt
    exact Or.inr (by omega)

variable {slug : String}

/-- The address of the page of a post as the listing links to it: the slug is written as it is. -/
def linkAddress (slug : String) : String := "/blog/" ++ slug

/-- A text that can be the name of a file. -/
structure IsFileName (slug : String) : Prop extends IsSegment slug where
  no_slash : '/' ∉ slug.toList

/-- Whether the address of a request may hold a character as it is: a blank, a control character and
the marks that are always encoded never get there. -/
def isUriChar (c : Char) : Bool :=
  0x20 < c.toNat && c ≠ '<' && c ≠ '>' && c ≠ '\x60'

/-- An address that can be requested as it is. -/
def IsUri (address : String) : Prop := ∀ c ∈ address.toList, isUriChar c = true

/-- The links to posts that can be requested as they are. -/
theorem isUri_linkAddress_iff :
    IsUri (linkAddress slug) ↔ ∀ c ∈ slug.toList, isUriChar c = true := by
  have hblog : ∀ c ∈ "/blog/".toList, isUriChar c = true := List.all_eq_true.mp (by decide)
  rw [IsUri, linkAddress, String.toList_append, List.forall_mem_append]
  exact and_iff_right hblog

/-- A text that means nothing but itself in an address. Whether an address with it can be requested
as it is, is another matter. -/
structure IsPlainSlug (slug : String) : Prop where
  no_query : '?' ∉ slug.toList
  no_fragment : '#' ∉ slug.toList
  no_backslash : '\\' ∉ slug.toList
  decode_eq : decodeText slug.toList = slug.toList

/-- The path of a link is the slug up to the first mark of a query or a fragment. -/
theorem pathOf_linkAddress (slug : String) :
    pathOf (linkAddress slug).toList = "/blog/".toList ++ pathOf slug.toList := by
  have hblog : ∀ c ∈ "/blog/".toList, (c ≠ '?' && c ≠ '#') = true :=
    List.all_eq_true.mp (by decide)
  rw [pathOf, linkAddress, String.toList_append, List.takeWhile_append_of_pos hblog, pathOf]

/-- A link to the name of a file leads to its post exactly if the name means nothing but itself in
an address. -/
theorem pageOf?_linkAddress_iff (h : IsFileName slug) :
    pageOf? (segmentsOf (pathOf (linkAddress slug).toList)) = some (.post slug) ↔
      IsPlainSlug slug := by
  rw [pathOf_linkAddress]
  constructor
  · intro hpage
    rcases eq_or_length_lt_of_pageOf? h.ne_empty hpage with ⟨hslug, hbackslash, hdecode⟩ | hlt
    · rw [← hslug] at hbackslash hdecode
      obtain ⟨hquery, hfragment⟩ := pathOf_eq_self_iff.mp hslug.symm
      exact ⟨hquery, hfragment, hbackslash, hdecode⟩
    · exact absurd hlt (Nat.not_lt.mpr (List.takeWhile_prefix _).length_le)
  · rintro ⟨hquery, hfragment, hbackslash, hdecode⟩
    have hne : slug.toList ≠ [] := fun hnil => h.ne_empty (String.toList_eq_nil_iff.mp hnil)
    have hdot : isDot slug.toList = false := Bool.eq_false_iff.mpr fun hdot =>
      h.ne_dot (String.toList_inj.mp (hdecode.symm.trans (decodeText_of_isDot hdot)))
    have hdots : isDoubleDot slug.toList = false := Bool.eq_false_iff.mpr fun hdots =>
      h.ne_dots (String.toList_inj.mp (hdecode.symm.trans (decodeText_of_isDoubleDot hdots)))
    rw [pathOf_eq_self_iff.mpr ⟨hquery, hfragment⟩, segmentsOf_blog h.no_slash hbackslash, hdots,
      hdot, if_neg Bool.false_ne_true, if_neg Bool.false_ne_true, pageOf?, pageOf?.postAt,
      if_pos rfl, hdecode, hdecode, String.ofList_toList]
    exact hne

end Folio.Site
