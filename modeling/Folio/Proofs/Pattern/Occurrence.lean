import Folio.Proofs.Pattern.Words
import Folio.Proofs.Text.CharSet

/-!
# Patterns of words match where a word occurs

The expression of a word takes one step for each of its characters, over the character in all its
cases. So from a set of places it leads anywhere exactly if the word occurs, whatever the case of
its letters, at one of these places; and the alternation of words leads somewhere exactly if one of
them does.
-/

namespace Folio.Pattern

open Folio.Text (CharSet)

/-- The places that a word leads to from the marked ones, one character after the other. -/
def Marks.follow (text word : List Char) (marks : Marks) : Marks :=
  word.foldl (fun marks x => marks.step (.ofOrbit x.toNat) text) marks

/-- An expression that is proper and leads wherever a word leads. -/
structure Regex.IsWord (word : List Char) (r : Regex) : Prop where
  proper : r.IsProper
  ends_eq : ∀ text marks, r.ends text marks = Marks.follow text word marks

/-- The characters of words are in ASCII. -/
theorem toNat_lt_of_isSearchChar {x : Char} (hx : isSearchChar x = true) : x.toNat < 128 := by
  have hbelow {last : Char} (hlast : x.val ≤ last.val) (hascii : last.toNat < 128) :
      x.toNat < 128 :=
    Nat.lt_of_le_of_lt (UInt32.le_iff_toNat_le.mp hlast) hascii
  have hkinds : (((x.isUpper || x.isLower) || x.isDigit) || decide (x = ' ')) = true := hx
  simp only [Bool.or_eq_true, decide_eq_true_eq] at hkinds
  rcases hkinds with ((hupper | hlower) | hdigit) | rfl
  · exact hbelow (of_decide_eq_true hupper).2 (by decide)
  · exact hbelow (of_decide_eq_true (Bool.and_eq_true_iff.mp hlower).2) (by decide)
  · exact hbelow (of_decide_eq_true (Bool.and_eq_true_iff.mp hdigit).2) (by decide)
  · decide

/-- A character in all its cases is an expression for it. -/
theorem isWord_ofOrbit {x : Char} (hx : x.toNat < 128) :
    (Regex.ofSet (.ofOrbit x.toNat)).IsWord [x] :=
  ⟨Regex.isProper_ofSet (CharSet.ordered_ofOrbit hx),
    fun _ marks => Regex.ends_ofSet (CharSet.ordered_ofOrbit hx) marks⟩

/-- The first of some trees and the others mean what they mean one after the other. -/
theorem listRegex_cons {m m' m'' : Mode} {tree : Tree} {trees : List Tree} {r : Regex}
    {rs : List Regex} (hfirst : tree.regex m = .ok (r, m'))
    (hrest : Tree.listRegex m' trees = .ok (rs, m'')) :
    Tree.listRegex m (tree :: trees) = .ok (r :: rs, m'') := by
  rw [Tree.listRegex, hfirst]
  simp only [bind, Except.bind, hrest]
  rfl

/-- The characters of a word mean expressions that lead, one after the other, where the word
leads. -/
theorem listRegex_letters {word : List Char} {letters : List Tree} (h : SpelledBy word letters)
    (hword : ∀ x ∈ word, x.toNat < 128) :
    ∃ rs, Tree.listRegex .search letters = .ok (rs, .search) ∧ (∀ r ∈ rs, r.IsProper) ∧
      ∀ text marks, Regex.endsOfAll text rs marks = Marks.follow text word marks := by
  induction h with
  | nil => exact ⟨[], rfl, by simp, fun _ _ => rfl⟩
  | @cons x letter word letters hletter _ ih =>
    obtain ⟨hx, hrest⟩ := List.forall_mem_cons.mp hword
    obtain ⟨rs, hrs, hproper, hends⟩ := ih hrest
    obtain ⟨span, rfl⟩ := hletter
    have hfirst := isWord_ofOrbit hx
    refine ⟨.ofSet (.ofOrbit x.toNat) :: rs, listRegex_cons rfl hrs,
      List.forall_mem_cons.mpr ⟨hfirst.proper, hproper⟩, fun text marks => ?_⟩
    rw [Regex.endsOfAll, hfirst.ends_eq, hends]
    rfl

/-- A tree that is a word means an expression for that word. -/
theorem regex_of_spells {word : List Char} {tree : Tree} (h : tree.Spells word)
    (hword : ∀ x ∈ word, x.toNat < 128) :
    ∃ r, tree.regex .search = .ok (r, .search) ∧ r.IsWord word := by
  cases h with
  | empty span => exact ⟨.empty, rfl, trivial, fun _ _ => rfl⟩
  | letter span x =>
    exact ⟨_, rfl, isWord_ofOrbit (hword x (List.mem_singleton_self x))⟩
  | letters span hletters =>
    obtain ⟨rs, hrs, hproper, hends⟩ := listRegex_letters hletters hword
    refine ⟨.concat rs, ?_, Regex.isProper_concat hproper, fun text marks => ?_⟩
    · rw [Tree.regex, hrs]
      rfl
    · rw [Regex.ends_concat, hends]

/-- Trees that are words mean expressions for these words. -/
theorem listRegex_words {words : List (List Char)} {trees : List Tree}
    (h : List.Forall₂ Tree.Spells words trees) (hwords : ∀ w ∈ words, ∀ x ∈ w, x.toNat < 128) :
    ∃ rs, Tree.listRegex .search trees = .ok (rs, .search) ∧
      List.Forall₂ Regex.IsWord words rs := by
  induction h with
  | nil => exact ⟨[], rfl, .nil⟩
  | cons hfirst _ ih =>
    obtain ⟨hword, hrest⟩ := List.forall_mem_cons.mp hwords
    obtain ⟨r, hr, hisWord⟩ := regex_of_spells hfirst hword
    obtain ⟨rs, hrs, hall⟩ := ih hrest
    exact ⟨r :: rs, listRegex_cons hr hrs, .cons hisWord hall⟩

namespace Marks

variable {text : List Char} {marks : Marks}

/-- Some place is marked exactly if it is so at some index. -/
theorem some_iff : marks.some = true ↔ ∃ i : Nat, marks[i]? = Option.some true := by
  simp [Marks.some, List.mem_iff_getElem?]

/-- Some place has one of two marks exactly if it has the one or has the other. -/
theorem some_join {a b : Marks} (h : a.length = b.length) :
    (a.join b).some = true ↔ a.some = true ∨ b.some = true := by
  induction a generalizing b with
  | nil =>
    cases b with
    | nil => simp [Marks.join, Marks.some]
    | cons => simp at h
  | cons m a ih =>
    cases b with
    | nil => simp at h
    | cons n b =>
      have hrest := ih (b := b) (by simpa using h)
      simp only [Marks.some, Marks.join, List.zipWith_cons_cons, List.any_cons, id,
        Bool.or_eq_true] at hrest ⊢
      rw [hrest]
      exact or_or_or_comm ..

/-- A place is marked in all marks of a text if it is a place of that text. -/
theorem getElem?_all {i : Nat} : (all text)[i]? = Option.some true ↔ i ≤ text.length := by
  cases i with
  | zero => simp [all]
  | succ i =>
    rw [all, List.map_const', List.getElem?_cons_succ, List.getElem?_replicate,
      Option.ite_none_right_eq_some, and_iff_left rfl, Nat.lt_iff_add_one_le]

/-- A step leads behind the characters of the set at marked places, and nowhere else. -/
theorem getElem?_step {set : CharSet} {i : Nat} :
    (marks.step set text)[i + 1]? = Option.some true ↔
      marks[i]? = Option.some true ∧ ∃ c, text[i]? = Option.some c ∧ set.contains c = true := by
  rw [step, List.getElem?_cons_succ]
  induction text generalizing marks i with
  | nil => simp [behind]
  | cons c text ih =>
    cases marks with
    | nil => simp [behind]
    | cons m marks =>
      cases i with
      | zero => simp [behind]
      | succ i => simpa [behind] using ih

/-- A step leads not to the first place. -/
theorem getElem?_step_zero {set : CharSet} :
    (marks.step set text)[0]? ≠ Option.some true := by
  simp [step]

/-- Within ASCII, a word leads somewhere exactly if it occurs at a marked place when the case of
letters does not count. The induction is on the word, of which each step takes one character. -/
theorem some_follow_iff {word : List Char} (htext : ∀ c ∈ text, c.toNat < 128)
    (hword : ∀ x ∈ word, x.toNat < 128) :
    (follow text word marks).some = true ↔
      ∃ i, marks[i]? = Option.some true ∧
        word.map Char.toLower <+: (text.map Char.toLower).drop i := by
  induction word generalizing marks with
  | nil => simp [follow, some_iff]
  | cons x word ih =>
    obtain ⟨hx, hrest⟩ := List.forall_mem_cons.mp hword
    have hstep (i : Nat) :
        (∃ c, text[i]? = Option.some c ∧ (CharSet.ofOrbit x.toNat).contains c = true) ∧
            word.map Char.toLower <+: (text.map Char.toLower).drop (i + 1) ↔
          (x :: word).map Char.toLower <+: (text.map Char.toLower).drop i := by
      rw [List.map_cons, List.cons_prefix_iff]
      constructor
      · rintro ⟨⟨c, hc, hset⟩, hprefix⟩
        have hascii := htext c (List.mem_of_getElem? hc)
        have hat : (text.map Char.toLower)[i]? = Option.some c.toLower := by
          rw [List.getElem?_map, hc, Option.map_some]
        obtain ⟨hi, hget⟩ := List.getElem?_eq_some_iff.mp hat
        refine ⟨_, ?_, hprefix⟩
        rw [List.drop_eq_getElem_cons hi, hget, (CharSet.contains_ofOrbit hx hascii).mp hset]
      · rintro ⟨later, hdrop, hprefix⟩
        have hat : (text.map Char.toLower)[i]? = Option.some x.toLower := by
          rw [← List.head?_drop, hdrop, List.head?_cons]
        rw [List.getElem?_map, Option.map_eq_some_iff] at hat
        obtain ⟨c, hc, hlower⟩ := hat
        have hascii := htext c (List.mem_of_getElem? hc)
        refine ⟨⟨c, hc, (CharSet.contains_ofOrbit hx hascii).mpr hlower.symm⟩, ?_⟩
        rwa [← List.tail_drop, hdrop, List.tail_cons]
    have hmore := @ih (marks.step (.ofOrbit x.toNat) text) hrest
    refine hmore.trans ⟨?_, ?_⟩
    · rintro ⟨i, hi, hprefix⟩
      cases i with
      | zero => exact absurd hi getElem?_step_zero
      | succ i =>
        obtain ⟨hmark, hchar⟩ := getElem?_step.mp hi
        exact ⟨i, hmark, (hstep i).mp ⟨hchar, hprefix⟩⟩
    · rintro ⟨i, hmark, hprefix⟩
      obtain ⟨hchar, hrest⟩ := (hstep i).mpr hprefix
      exact ⟨i + 1, getElem?_step.mpr ⟨hmark, hchar⟩, hrest⟩

end Marks

variable {text : List Char}

/-- Within ASCII, the expression of a word matches the texts in which the word occurs. -/
theorem matchesIn_of_isWord {word : List Char} {r : Regex} (h : r.IsWord word)
    (htext : ∀ c ∈ text, c.toNat < 128) (hword : ∀ x ∈ word, x.toNat < 128) :
    r.matchesIn text = true ↔ word.map Char.toLower <:+: text.map Char.toLower := by
  rw [Regex.matchesIn, h.ends_eq, Marks.some_follow_iff htext hword, List.infix_iff_prefix_suffix]
  simp only [Marks.getElem?_all]
  constructor
  · rintro ⟨i, -, hprefix⟩
    exact ⟨_, hprefix, List.drop_suffix i _⟩
  · rintro ⟨part, hprefix, hsuffix⟩
    rw [List.suffix_iff_eq_drop] at hsuffix
    refine ⟨_, ?_, hsuffix ▸ hprefix⟩
    rw [List.length_map]
    exact Nat.sub_le _ _

/-- The branches of an alternation match the texts that one of them matches. -/
theorem some_endsOfAny_iff {rs : List Regex} {marks : Marks} (h : Marks.Fits text marks) :
    (Regex.endsOfAny text rs marks).some = true ↔ ∃ r ∈ rs, (r.ends text marks).some = true := by
  induction rs with
  | nil => simp [Regex.endsOfAny, Marks.some]
  | cons r rs ih =>
    have hlength := (Regex.fits_ends r h).trans (Regex.fits_endsOfAny rs h).symm
    rw [Regex.endsOfAny, Marks.some_join hlength, ih, List.exists_mem_cons_iff]

/-- Where elements of two lists are related and related elements have the same property, one list
has an element with it if the other has. -/
theorem exists_mem_iff_of_forall₂ {α β : Type} {R : α → β → Prop} {P : α → Prop} {Q : β → Prop}
    {as : List α} {bs : List β} (h : List.Forall₂ R as bs)
    (hiff : ∀ a ∈ as, ∀ b, R a b → (P a ↔ Q b)) : (∃ a ∈ as, P a) ↔ ∃ b ∈ bs, Q b := by
  induction h with
  | nil => simp
  | cons hfirst _ ih =>
    obtain ⟨ha, has⟩ := List.forall_mem_cons.mp hiff
    rw [List.exists_mem_cons_iff, List.exists_mem_cons_iff, ha _ hfirst, ih has]

/-- The branches of a pattern, if they are words, have an expression that matches, within ASCII,
exactly the texts in which one of the words occurs when the case of letters does not count. -/
theorem regex_ofBranches {words : List (List Char)} {trees : List Tree} (span : Span)
    (h : List.Forall₂ Tree.Spells words trees) (hwords : ∀ w ∈ words, ∀ x ∈ w, x.toNat < 128) :
    ∃ r, (Tree.ofBranches span trees).regex .search = .ok (r, .search) ∧
      ∀ text : List Char, (∀ c ∈ text, c.toNat < 128) →
        (r.matchesIn text = true ↔
          ∃ w ∈ words, w.map Char.toLower <:+: text.map Char.toLower) := by
  rw [Tree.ofBranches.eq_def]
  split
  case h_1 tree =>
    cases h with
    | cons hfirst hnone =>
      cases hnone
      have hword := hwords _ (List.mem_singleton_self _)
      obtain ⟨r, hr, hisWord⟩ := regex_of_spells hfirst hword
      refine ⟨r, hr, fun text htext => ?_⟩
      rw [matchesIn_of_isWord hisWord htext hword]
      simp only [List.mem_singleton, exists_eq_left]
  case h_2 =>
    obtain ⟨rs, hrs, hall⟩ := listRegex_words h hwords
    refine ⟨.oneOf rs, ?_, fun text htext => ?_⟩
    · rw [Tree.regex, hrs]
      rfl
    · have hproper : ∀ r ∈ rs, r.IsProper := forall_mem_of_forall₂ hall fun _ _ h => h.proper
      rw [Regex.matchesIn, Regex.ends_oneOf hproper (Marks.fits_all text),
        some_endsOfAny_iff (Marks.fits_all text)]
      exact (exists_mem_iff_of_forall₂ hall fun w hw r hr =>
        (matchesIn_of_isWord hr htext (hwords w hw)).symm).symm

/-- A pattern of words has an expression, and within ASCII that matches exactly the texts in which
one of the words occurs when the case of letters does not count. -/
theorem ofPattern_words_matchesIn {words : List (List Char)} (hnone : words ≠ [])
    (hwords : ∀ w ∈ words, ∀ x ∈ w, isSearchChar x = true) :
    ∃ r, Regex.ofPattern (['|'].intercalate words) = .ok r ∧
      ∀ text : List Char, (∀ c ∈ text, c.toNat < 128) →
        (r.matchesIn text = true ↔
          ∃ w ∈ words, w.map Char.toLower <:+: text.map Char.toLower) := by
  obtain ⟨span, trees, htrees, htree⟩ := ofPattern_words hnone hwords
  obtain ⟨r, hr, hmatch⟩ := regex_ofBranches span htrees fun w hw x hx =>
    toNat_lt_of_isSearchChar (hwords w hw x hx)
  refine ⟨r, ?_, hmatch⟩
  rw [Regex.ofPattern, htree]
  simp only [bind, Except.bind, hr]
  rfl

end Folio.Pattern
