import Folio.Proofs.Pattern.Marks

/-!
# What expressions match does not depend on their form

Expressions are put together by functions that bring them into a simple form. Here the simple form
is shown to lead from the same places to the same places as the form that was asked for: a set to
the places behind its characters, a sequence through its parts one after the other, and an
alternation to the places of all its branches. So a pattern can be followed part by part.
-/

namespace Folio.Pattern

open Folio.Text (CharSet CodeRange)

variable {text : List Char} {marks : Marks}

open Marks (Fits)

namespace Regex

mutual

/-- An expression leaves a mark for each place. -/
theorem fits_ends : ∀ (r : Regex) {marks : Marks}, Fits text marks → Fits text (r.ends text marks)
  | .empty, _, h => h
  | .text chars, marks, h => by
    rw [ends]
    induction chars generalizing marks with
    | nil => exact h
    | cons c chars ih => exact ih _ (h.step _)
  | .one set, _, h => h.step set
  | .look condition, _, h => h.keep condition Option.none
  | .repeated least most r, marks, h => by
    have hstart : Fits text (marks.iterate (r.ends text) least) :=
      h.iterate (fun _ hmarks => fits_ends r hmarks) least
    rw [ends.eq_def]
    dsimp only
    split
    · exact hstart.run _ _
    · exact hstart.run _ _
    · exact hstart.spread (fun _ hmarks => fits_ends r hmarks) _ hstart
    · exact hstart.spread (fun _ hmarks => fits_ends r hmarks) _ hstart
  | .group r, _, h => fits_ends r h
  | .seq parts, _, h => fits_endsOfAll parts h
  | .alt branches, _, h => fits_endsOfAny branches h

/-- Expressions one after the other leave a mark for each place. -/
theorem fits_endsOfAll : ∀ (rs : List Regex) {marks : Marks}, Fits text marks →
    Fits text (endsOfAll text rs marks)
  | [], _, h => h
  | r :: rest, _, h => fits_endsOfAll rest (fits_ends r h)

/-- Branches leave a mark for each place. -/
theorem fits_endsOfAny : ∀ (rs : List Regex) {marks : Marks}, Fits text marks →
    Fits text (endsOfAny text rs marks)
  | [], marks, h => by
    rw [endsOfAny, Marks.map_false h]
    simp [Fits, Marks.none]
  | r :: rest, _, h => (fits_ends r h).join (fits_endsOfAny rest h)

end

/-- Expressions are followed through in two turns. -/
theorem endsOfAll_append (rs rest : List Regex) (marks : Marks) :
    endsOfAll text (rs ++ rest) marks = endsOfAll text rest (endsOfAll text rs marks) := by
  induction rs generalizing marks with
  | nil => rfl
  | cons r rs ih => exact ih (r.ends text marks)

/-- The parts of an expression lead where it leads. -/
theorem endsOfAll_parts (r : Regex) (marks : Marks) :
    endsOfAll text r.parts marks = r.ends text marks := by
  cases r <;> rfl

/-- The parts of expressions lead where these lead. -/
theorem endsOfAll_flatMap_parts (rs : List Regex) (marks : Marks) :
    endsOfAll text (rs.flatMap parts) marks = endsOfAll text rs marks := by
  induction rs generalizing marks with
  | nil => rfl
  | cons r rs ih => rw [List.flatMap_cons, endsOfAll_append, endsOfAll_parts, ih, endsOfAll]

/-- Neighbouring texts lead where the one text leads that they make. -/
theorem endsOfAll_joinTexts (rs : List Regex) (marks : Marks) :
    endsOfAll text (joinTexts rs) marks = endsOfAll text rs marks := by
  induction rs generalizing marks with
  | nil => rfl
  | cons r rest ih =>
    rw [joinTexts.eq_def]
    split
    case h_1 heq => cases heq
    case h_2 s tail heq =>
      obtain ⟨rfl, rfl⟩ := List.cons.inj heq
      rw [endsOfAll, ← ih]
      split
      case h_1 t more hmore => rw [hmore, endsOfAll, endsOfAll, ends, ends, ends, List.foldl_append]
      case h_2 => rw [endsOfAll]
    case h_3 head tail _ heq =>
      obtain ⟨rfl, rfl⟩ := List.cons.inj heq
      rw [endsOfAll, ih, endsOfAll]

/-- The simple form of a sequence leads where its parts lead. -/
theorem ends_concat (rs : List Regex) (marks : Marks) :
    (concat rs).ends text marks = endsOfAll text rs marks := by
  rw [← endsOfAll_flatMap_parts, ← endsOfAll_joinTexts, concat]
  split
  case h_1 hnone => rw [hnone]; rfl
  case h_2 hone => rw [hone]; rfl
  case h_3 => rfl

/-- The code points that are no characters. -/
def surrogates : CharSet := ⟨[⟨0xD800, 0xDFFF⟩]⟩

/-- The code points that are no characters are in order. -/
theorem ordered_surrogates : CharSet.Ordered surrogates.ranges :=
  ⟨by simp [surrogates, CodeRange.IsProper, CharSet.maxCode], List.pairwise_singleton _ _⟩

/-- A character is a code point that is none of those that are no characters. -/
theorem containsCode_surrogates {n : Nat} :
    surrogates.containsCode n = false ↔ n ≤ CharSet.maxCode → n.isValidChar := by
  rw [← Bool.not_eq_true, CharSet.containsCode_iff]
  simp only [surrogates, CodeRange.Holds, List.mem_singleton, exists_eq_left, CharSet.maxCode,
    Nat.isValidChar]
  omega

/-- The code point of a character is none that is no character. -/
theorem le_maxCode (c : Char) : c.toNat ≤ CharSet.maxCode := by
  have := c.valid
  simp only [UInt32.isValidChar, Nat.isValidChar, CharSet.maxCode, Char.toNat] at *
  omega

/-- Without what are no characters, a set holds the same characters. -/
theorem contains_diff_surrogates {set : CharSet} (h : CharSet.Ordered set.ranges) (c : Char) :
    (set.diff surrogates).contains c = set.contains c := by
  have hvalid : surrogates.containsCode c.toNat = false :=
    containsCode_surrogates.mpr fun _ => c.valid
  rw [CharSet.contains, CharSet.containsCode_diff h ordered_surrogates (le_maxCode c), hvalid,
    Bool.not_false, Bool.and_true, CharSet.contains]

/-- A set leads behind each of its characters. -/
theorem ends_ofSet {set : CharSet} (h : CharSet.Ordered set.ranges) (marks : Marks) :
    (ofSet set).ends text marks = marks.step set text := by
  have hordered := CharSet.ordered_diff h ordered_surrogates
  rw [← Marks.step_congr (contains_diff_surrogates h)]
  simp only [ofSet]
  rw [← surrogates]
  split
  case h_1 r hone =>
    split
    case isTrue hpoint =>
      have hmem : r ∈ (set.diff surrogates).ranges := by rw [hone]; exact List.mem_singleton_self r
      obtain ⟨-, hbound⟩ := hordered.proper r hmem
      have hholds : (set.diff surrogates).containsCode r.lo = true :=
        CharSet.containsCode_iff.mpr ⟨r, hmem, Nat.le_refl _, Nat.le_of_eq hpoint⟩
      rw [CharSet.containsCode_diff h ordered_surrogates (hpoint ▸ hbound), Bool.and_eq_true,
        Bool.not_eq_true'] at hholds
      have hchar : (Char.ofNat r.lo).toNat = r.lo := by
        have hvalid := containsCode_surrogates.mp hholds.2 (hpoint ▸ hbound)
        rw [Char.ofNat, dif_pos hvalid]
        rfl
      refine Marks.step_congr (fun c => ?_) text marks
      rw [hchar, CharSet.contains, CharSet.contains, Bool.eq_iff_iff, CharSet.containsCode_single,
        CharSet.containsCode_iff, hone]
      simp only [List.mem_singleton, exists_eq_left, CodeRange.Holds]
      omega
    case isFalse => rfl
  case h_2 => rfl

mutual

/-- All sets in an expression are proper. -/
def IsProper : Regex → Prop
  | .one set => set.IsProper
  | .repeated _ _ body => body.IsProper
  | .group body => body.IsProper
  | .seq parts => AllProper parts
  | .alt branches => AllProper branches
  | _ => True

/-- All sets in some expressions are proper. -/
def AllProper : List Regex → Prop
  | [] => True
  | r :: rest => r.IsProper ∧ AllProper rest

end

/-- Expressions are proper if each of them is. -/
theorem allProper_iff {rs : List Regex} : AllProper rs ↔ ∀ r ∈ rs, r.IsProper := by
  induction rs with
  | nil => simp [AllProper]
  | cons r rs ih => rw [AllProper, ih, List.forall_mem_cons]

/-- The parts of a proper expression are proper. -/
theorem isProper_of_mem_parts {r part : Regex} (h : r.IsProper) (hpart : part ∈ r.parts) :
    part.IsProper := by
  cases r with
  | empty => simp [parts] at hpart
  | seq rs => exact allProper_iff.mp h part hpart
  | _ => exact List.mem_singleton.mp hpart ▸ h

/-- The branches of a proper expression are proper. -/
theorem isProper_of_mem_branches {r branch : Regex} (h : r.IsProper)
    (hbranch : branch ∈ r.branches) : branch.IsProper := by
  cases r with
  | alt rs => exact allProper_iff.mp h branch hbranch
  | _ => exact List.mem_singleton.mp hbranch ▸ h

/-- Neighbouring texts that are made one text leave expressions proper. -/
theorem isProper_of_mem_joinTexts {rs : List Regex} (h : ∀ r ∈ rs, r.IsProper) :
    ∀ r ∈ joinTexts rs, r.IsProper := by
  induction rs with
  | nil => exact h
  | cons r rest ih =>
    obtain ⟨hr, hrest⟩ := List.forall_mem_cons.mp h
    rw [joinTexts.eq_def]
    split
    case h_1 heq => cases heq
    case h_2 s tail heq =>
      obtain ⟨rfl, rfl⟩ := List.cons.inj heq
      have htail := ih hrest
      split
      case h_1 t more hmore =>
        rw [hmore] at htail
        exact List.forall_mem_cons.mpr ⟨trivial, (List.forall_mem_cons.mp htail).2⟩
      case h_2 => exact List.forall_mem_cons.mpr ⟨trivial, htail⟩
    case h_3 head tail _ heq =>
      obtain ⟨rfl, rfl⟩ := List.cons.inj heq
      exact List.forall_mem_cons.mpr ⟨hr, ih hrest⟩

/-- The simple form of a sequence of proper expressions is proper. -/
theorem isProper_concat {rs : List Regex} (h : ∀ r ∈ rs, r.IsProper) : (concat rs).IsProper := by
  have hjoined : ∀ r ∈ joinTexts (rs.flatMap parts), r.IsProper := by
    refine isProper_of_mem_joinTexts fun part hpart => ?_
    obtain ⟨r, hr, hpart⟩ := List.mem_flatMap.mp hpart
    exact isProper_of_mem_parts (h r hr) hpart
  rw [concat]
  split
  case h_1 => trivial
  case h_2 r hone => exact hjoined r (hone ▸ List.mem_singleton_self r)
  case h_3 => exact allProper_iff.mpr hjoined

/-- The expression of a set in order is proper. -/
theorem isProper_ofSet {set : CharSet} (h : CharSet.Ordered set.ranges) : (ofSet set).IsProper := by
  have hordered := CharSet.ordered_diff h ordered_surrogates
  simp only [ofSet]
  rw [← surrogates]
  split
  case h_1 =>
    split
    case isTrue => trivial
    case isFalse => exact hordered.proper
  case h_2 => exact hordered.proper

mutual

/-- Expressions that are written alike are equal. -/
theorem eq_of_same : ∀ {r r' : Regex}, r.same r' = true → r = r'
  | .empty, r', h => by cases r' <;> simp_all [same]
  | .text s, r', h => by cases r' <;> simp_all [same]
  | .one s, r', h => by cases r' <;> simp_all [same]
  | .look a, r', h => by cases r' <;> simp_all [same]
  | .repeated l m r, r', h => by
    cases r' with
    | repeated l' m' s =>
      simp only [same, Bool.and_eq_true, decide_eq_true_eq] at h
      rw [h.1.1, h.1.2, eq_of_same h.2]
    | _ => simp [same] at h
  | .group r, r', h => by cases r' <;> simp_all [same]
  | .seq rs, r', h => by
    cases r' with
    | seq rs' =>
      rw [same] at h
      rw [eq_of_allSame h]
    | _ => simp [same] at h
  | .alt rs, r', h => by
    cases r' with
    | alt rs' =>
      rw [same] at h
      rw [eq_of_allSame h]
    | _ => simp [same] at h

/-- Lists of expressions that are written alike are equal. -/
theorem eq_of_allSame : ∀ {rs rs' : List Regex}, allSame rs rs' = true → rs = rs'
  | [], [], _ => rfl
  | [], _ :: _, h => by simp [allSame] at h
  | _ :: _, [], h => by simp [allSame] at h
  | r :: rs, r' :: rs', h => by
    rw [allSame, Bool.and_eq_true] at h
    rw [eq_of_same h.1, eq_of_allSame h.2]

end

/-- Sequences begin alike as far as was counted. -/
theorem take_eq_of_le_sharedLength {rs rs' : List Regex} {n : Nat} (h : n ≤ sharedLength rs rs') :
    rs.take n = rs'.take n := by
  induction n generalizing rs rs' with
  | zero => rfl
  | succ n ih =>
    cases rs with
    | nil => simp [sharedLength] at h
    | cons r rs =>
      cases rs' with
      | nil => simp [sharedLength] at h
      | cons r' rs' =>
        rw [sharedLength] at h
        split at h
        case isTrue hsame =>
          have hrest : rs.take n = rs'.take n := ih (Nat.le_of_succ_le_succ h)
          rw [eq_of_same hsame, List.take_succ_cons, List.take_succ_cons, hrest]
        case isFalse => exact absurd h (Nat.not_succ_le_zero n)

/-- The least of some numbers is no greater than any of them. -/
theorem foldl_min_le {α : Type} (f : α → Nat) (items : List α) (n : Nat) :
    items.foldl (fun n a => min n (f a)) n ≤ n ∧
      ∀ a ∈ items, items.foldl (fun n a => min n (f a)) n ≤ f a := by
  induction items generalizing n with
  | nil => exact ⟨Nat.le_refl n, fun _ h => absurd h List.not_mem_nil⟩
  | cons a items ih =>
    obtain ⟨hstart, hitems⟩ := ih (min n (f a))
    rw [List.foldl_cons]
    exact ⟨Nat.le_trans hstart (Nat.min_le_left _ _),
      List.forall_mem_cons.mpr ⟨Nat.le_trans hstart (Nat.min_le_right _ _), hitems⟩⟩

/-- Branches lead to the places of all of them. -/
theorem endsOfAny_append (rs rest : List Regex) (h : Fits text marks) :
    endsOfAny text (rs ++ rest) marks =
      (endsOfAny text rs marks).join (endsOfAny text rest marks) := by
  induction rs with
  | nil =>
    rw [List.nil_append, endsOfAny.eq_1, Marks.map_false h,
      Marks.none_join (fits_endsOfAny rest h)]
  | cons r rs ih => rw [List.cons_append, endsOfAny, endsOfAny, ih, Marks.join_assoc]

/-- A single branch leads where it leads. -/
theorem endsOfAny_singleton (r : Regex) (h : Fits text marks) :
    endsOfAny text [r] marks = r.ends text marks := by
  rw [endsOfAny, endsOfAny, Marks.map_false h, Marks.join_none (fits_ends r h)]

/-- The branches of an expression lead where it leads. -/
theorem endsOfAny_branches (r : Regex) (h : Fits text marks) :
    endsOfAny text r.branches marks = r.ends text marks := by
  cases r with
  | alt rs => rfl
  | _ => exact endsOfAny_singleton _ h

/-- The branches of expressions lead where these lead. -/
theorem endsOfAny_flatMap_branches (rs : List Regex) (h : Fits text marks) :
    endsOfAny text (rs.flatMap branches) marks = endsOfAny text rs marks := by
  induction rs with
  | nil => rfl
  | cons r rs ih =>
    rw [List.flatMap_cons, endsOfAny_append _ _ h, endsOfAny_branches r h, ih, endsOfAny]

/-- Branches that lead to the same places may stand for each other. -/
theorem endsOfAny_map_congr {α : Type} {f g : α → Regex} {marks' : Marks} (items : List α)
    (hlength : marks.length = marks'.length)
    (h : ∀ a ∈ items, (f a).ends text marks = (g a).ends text marks') :
    endsOfAny text (items.map f) marks = endsOfAny text (items.map g) marks' := by
  induction items with
  | nil => simp [endsOfAny, hlength]
  | cons a items ih =>
    obtain ⟨ha, hitems⟩ := List.forall_mem_cons.mp h
    rw [List.map_cons, List.map_cons, endsOfAny, endsOfAny, ha, ih hitems]

/-- A step over the characters of some sets leads where steps over each of them lead. -/
theorem step_unions (sets : List CharSet) (h : Fits text marks) :
    marks.step (.unions sets) text = endsOfAny text (sets.map .one) marks := by
  induction sets with
  | nil =>
    rw [List.map_nil, endsOfAny, Marks.map_false h, Marks.step_empty _ h]
    intro c
    rw [CharSet.contains, ← Bool.not_eq_true, CharSet.containsCode_unions]
    simp
  | cons set sets ih =>
    rw [List.map_cons, endsOfAny, ends, ← ih]
    refine Marks.step_or (fun c => ?_) text marks
    rw [CharSet.contains, CharSet.contains, CharSet.contains, Bool.eq_iff_iff, Bool.or_eq_true,
      CharSet.containsCode_unions, CharSet.containsCode_unions, List.exists_mem_cons_iff]

/-- What is made of each element has been made of all. -/
theorem eq_map_of_mapM {α β : Type} {f : α → Option β} {g : β → α} {items : List α}
    {results : List β} (hf : ∀ a b, f a = some b → a = g b) (h : items.mapM f = some results) :
    items = results.map g := by
  induction items generalizing results with
  | nil =>
    cases h
    rfl
  | cons a items ih =>
    rw [List.mapM_cons] at h
    obtain ⟨b, hb, h⟩ := Option.bind_eq_some_iff.mp h
    obtain ⟨more, hmore, h⟩ := Option.bind_eq_some_iff.mp h
    cases h
    rw [hf a b hb, ih hmore, List.map_cons]

/-- An expression that is a character is the text of that character. -/
theorem eq_text_of_char? (r : Regex) (c : Char) (h : r.char? = some c) : r = .text [c] := by
  rw [char?.eq_def] at h
  split at h
  case h_1 => rw [Option.some.inj h]
  case h_2 => cases h

/-- An expression that is a set is that set. -/
theorem eq_one_of_set? (r : Regex) (set : CharSet) (h : r.set? = some set) : r = .one set := by
  rw [set?.eq_def] at h
  split at h
  case h_1 => rw [Option.some.inj h]
  case h_2 => cases h

/-- An expression that is a sequence is the sequence of its parts. -/
theorem eq_seq_of_sequence? (r : Regex) (parts : List Regex) (h : r.sequence? = some parts) :
    r = .seq parts := by
  rw [sequence?.eq_def] at h
  split at h
  case h_1 => rw [Option.some.inj h]
  case h_2 => cases h

/-- What is left of sequences that begin alike leads from the places behind that beginning where the
sequences lead. -/
theorem endsOfAny_seq_drop {shared : List Regex} {n : Nat} (seqs : List (List Regex))
    (hshared : ∀ parts ∈ seqs, parts.take n = shared) (h : Fits text marks) :
    endsOfAny text (seqs.map fun parts => concat (parts.drop n)) (endsOfAll text shared marks) =
      endsOfAny text (seqs.map .seq) marks := by
  have hfits := fits_endsOfAll shared h
  refine endsOfAny_map_congr seqs (hfits.trans h.symm) fun parts hparts => ?_
  calc (concat (parts.drop n)).ends text (endsOfAll text shared marks)
      = endsOfAll text (parts.drop n) (endsOfAll text shared marks) := ends_concat _ _
    _ = endsOfAll text (parts.take n ++ parts.drop n) marks := by
        rw [endsOfAll_append, hshared parts hparts]
    _ = (Regex.seq parts).ends text marks := by rw [List.take_append_drop, ends]

/-- The union of some sets leads to the places of all of them. -/
theorem ends_unions {sets : List CharSet} (hsets : ∀ set ∈ sets, set.IsProper)
    (h : Fits text marks) :
    (ofSet (.unions sets)).ends text marks = endsOfAny text (sets.map .one) marks := by
  rw [ends_ofSet (CharSet.ordered_unions hsets), step_unions _ h]

/-- The set of some characters leads to the places of all their texts. -/
theorem ends_unions_single (chars : List Char) (h : Fits text marks) :
    (ofSet (.unions (chars.map fun c => .single c.toNat))).ends text marks =
      endsOfAny text (chars.map fun c => .text [c]) marks := by
  have hsets : ∀ set ∈ chars.map fun c => CharSet.single c.toNat, set.IsProper :=
    List.forall_mem_map.mpr fun c _ => CharSet.isProper_single (le_maxCode c)
  rw [ends_unions hsets h, List.map_map]
  exact endsOfAny_map_congr chars rfl fun c _ => rfl

/-- Sequences begin alike for as long as each of them begins like the first one. -/
theorem take_shared {first parts : List Regex} {others : List (List Regex)}
    (h : parts ∈ first :: others) :
    parts.take (others.foldl (fun n parts => min n (sharedLength first parts)) first.length) =
      first.take (others.foldl (fun n parts => min n (sharedLength first parts)) first.length) := by
  rcases List.mem_cons.mp h with rfl | hother
  · rfl
  · have hmin := (foldl_min_le (sharedLength first) others first.length).2 parts hother
    exact (take_eq_of_le_sharedLength hmin).symm

/-- What is left of proper sequences is proper. -/
theorem isProper_concat_drop {seqs : List (List Regex)} (h : ∀ r ∈ seqs.map seq, r.IsProper)
    (n : Nat) : ∀ r ∈ seqs.map fun parts => concat (parts.drop n), r.IsProper := by
  refine List.forall_mem_map.mpr fun parts hparts => isProper_concat fun r hr => ?_
  have hseq : AllProper parts := h _ (List.mem_map_of_mem hparts)
  exact allProper_iff.mp hseq r (List.mem_of_mem_drop hr)

/-- The simple form of an alternation leads to the places of all its branches. What the branches
begin with is taken out of them, so the induction is on how often that may happen. -/
theorem ends_oneOfWithin (fuel : Nat) {rs : List Regex} (hproper : ∀ r ∈ rs, r.IsProper)
    (h : Fits text marks) :
    (oneOfWithin fuel rs).ends text marks = endsOfAny text rs marks := by
  induction fuel generalizing rs marks with
  | zero => rfl
  | succ fuel ih =>
    have hbranches : ∀ r ∈ rs.flatMap branches, r.IsProper := by
      intro branch hbranch
      obtain ⟨r, hr, hbranch⟩ := List.mem_flatMap.mp hbranch
      exact isProper_of_mem_branches (hproper r hr) hbranch
    rw [oneOfWithin, ← endsOfAny_flatMap_branches rs h]
    generalize rs.flatMap branches = all at hbranches
    split
    case h_1 =>
      rw [ends, endsOfAny, Marks.map_false h]
      exact Marks.step_empty (fun c => rfl) h
    case h_2 r => exact (endsOfAny_singleton r h).symm
    case h_3 =>
      split
      case h_1 chars hchars =>
        rw [eq_map_of_mapM (g := fun c => .text [c]) eq_text_of_char? hchars]
        exact ends_unions_single chars h
      case h_2 sets hsets _ =>
        rw [eq_map_of_mapM (g := .one) eq_one_of_set? hsets] at hbranches ⊢
        exact ends_unions (fun set hset => hbranches _ (List.mem_map_of_mem hset)) h
      case h_3 first others hseqs _ _ =>
        rw [eq_map_of_mapM (g := .seq) eq_seq_of_sequence? hseqs] at hbranches ⊢
        simp only
        split
        case isTrue => rw [ends]
        case isFalse =>
          rw [ends_concat, endsOfAll_append, endsOfAll, endsOfAll,
            ih (isProper_concat_drop hbranches _) (fits_endsOfAll _ h),
            endsOfAny_seq_drop _ (fun parts hparts => take_shared hparts) h]
      case h_4 => rw [ends]

/-- An alternation leads to the places of all its branches. -/
theorem ends_oneOf {rs : List Regex} (hproper : ∀ r ∈ rs, r.IsProper) (h : Fits text marks) :
    (oneOf rs).ends text marks = endsOfAny text rs marks :=
  ends_oneOfWithin _ hproper h

end Regex

end Folio.Pattern
