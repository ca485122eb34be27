import Folio.Pattern.Search
import Folio.Proofs.Pattern.Matching
import Mathlib.Data.List.Forall2

/-!
# Patterns of words

A pattern of letters, digits, spaces and vertical bars is read as the alternation of the words
between the bars, and every character of a word stands for itself in both its cases. So the pattern
is well formed, and within ASCII it matches exactly the texts in which one of its words occurs when
the case of letters does not count.
-/

namespace Folio.Pattern

open Folio.Text (CharSet CodeRange)

/-- A letter, a digit or a space: what the words of a search are made of. -/
def isSearchChar (c : Char) : Bool := c.isAlphanum || c = ' '

/-- Trees that are the characters of a word, one after the other. -/
def SpelledBy (word : List Char) (letters : List Tree) : Prop :=
  List.Forall₂ (fun x letter => ∃ span, letter = .literal ⟨span, x, false⟩) word letters

/-- A tree that is a word. -/
inductive Tree.Spells : List Char → Tree → Prop where
  | empty (span : Span) : Spells [] (.empty span)
  | letter (span : Span) (x : Char) : Spells [x] (.literal ⟨span, x, false⟩)
  | letters (span : Span) {word : List Char} {letters : List Tree} (h : SpelledBy word letters) :
      Spells word (.concat span letters)

/-- The branches of a pattern as one tree. -/
def Tree.ofBranches (span : Span) : List Tree → Tree
  | [tree] => tree
  | trees => .alternation span trees

/-- The characters of a word make a tree that is the word. -/
theorem spells_ofItems (span : Span) {word : List Char} {letters : List Tree}
    (h : SpelledBy word letters) : (Tree.ofItems span letters.reverse).Spells word := by
  rw [Tree.ofItems.eq_def]
  split
  case h_1 hnone =>
    rw [List.reverse_eq_nil_iff.mp hnone] at h
    cases h
    exact .empty span
  case h_2 item hone =>
    rw [List.reverse_eq_iff.mp hone] at h
    cases h with
    | cons hletter hrest =>
      cases hrest
      obtain ⟨place, rfl⟩ := hletter
      exact .letter place _
  case h_3 =>
    rw [List.reverse_reverse]
    exact .letters span h

/-- What the characters of words are read as. -/
theorem step_searchChar {x : Char} (hx : isSearchChar x = true) (s : ParseState) (c : Cursor) :
    s.step x c = .ok (s.push (.literal ⟨c.charSpan, x, false⟩), c.pass) := by
  rw [ParseState.step.eq_def]
  split
  case h_13 => rfl
  all_goals exact absurd hx (by decide)

/-- In a pattern without blanks that do not count, the next character is read by one step. -/
theorem run_cons {s : ParseState} {c : Cursor} {x : Char} {rest : List Char}
    (hc : c.rest = x :: rest) (hverbose : c.verbose = false) (fuel : Nat) :
    s.run (fuel + 1) c = (s.step x c).bind fun next => next.1.run fuel next.2 := by
  have hskip : c.skipBlanks = c := by rw [Cursor.skipBlanks, hverbose]; rfl
  rw [ParseState.run.eq_def]
  simp only [hskip, Cursor.head?, hc, List.head?_cons]
  rfl

/-- The end of a pattern without open groups gives its tree. -/
theorem run_nil {s : ParseState} {c : Cursor} (hc : c.rest = []) (hverbose : c.verbose = false)
    (hgroups : s.groups = []) (fuel : Nat) : s.run fuel c = .ok (s.tree c.place) := by
  have hskip : c.skipBlanks = c := by rw [Cursor.skipBlanks, hverbose]; rfl
  rw [ParseState.run.eq_def]
  simp only [hskip, Cursor.head?, hc, List.head?_nil, hgroups]

/-- The rest behind the next character. -/
theorem rest_pass {c : Cursor} {x : Char} {rest : List Char} (hc : c.rest = x :: rest) :
    c.pass.rest = rest := by
  rw [Cursor.pass, hc]

/-- Passing a character does not change the mode. -/
theorem verbose_pass (c : Cursor) : c.pass.verbose = c.verbose := by
  rw [Cursor.pass]
  split <;> rfl

/-- A word is read character by character. -/
theorem run_word {word rest : List Char} (hword : ∀ x ∈ word, isSearchChar x = true) (fuel : Nat)
    {s : ParseState} {c : Cursor} (hc : c.rest = word ++ rest) (hverbose : c.verbose = false) :
    ∃ letters after, SpelledBy word letters ∧ after.rest = rest ∧ after.verbose = false ∧
      s.run (fuel + word.length) c =
        { s with items := letters.reverse ++ s.items }.run fuel after := by
  induction word generalizing s c with
  | nil => exact ⟨[], c, .nil, hc, hverbose, rfl⟩
  | cons x word ih =>
    obtain ⟨hx, hrest⟩ := List.forall_mem_cons.mp hword
    obtain ⟨letters, after, hletters, hafter, hmode, hrun⟩ :=
      ih hrest (s := s.push (.literal ⟨c.charSpan, x, false⟩)) (rest_pass hc)
        ((verbose_pass c).trans hverbose)
    refine ⟨.literal ⟨c.charSpan, x, false⟩ :: letters, after, .cons ⟨_, rfl⟩ hletters, hafter,
      hmode, ?_⟩
    rw [List.length_cons, ← Nat.add_assoc, run_cons hc hverbose, step_searchChar hx]
    refine hrun.trans ?_
    rw [List.reverse_cons, List.append_assoc]
    rfl

/-- The tree of a group is that of its branches. -/
theorem tree_eq (s : ParseState) (stop : Place) :
    s.tree stop =
      .ofBranches ⟨s.branchStart, stop⟩
        (s.branches.reverse ++ [.ofItems ⟨s.start, stop⟩ s.items]) := by
  rw [ParseState.tree]
  split
  case h_1 hnone => rw [hnone]; rfl
  case h_2 =>
    cases hbranches : s.branches.reverse with
    | nil => simp_all
    | cons first more => rw [List.reverse_cons, hbranches]; cases more <;> rfl

/-- Words with bars between them are read as their branches. -/
theorem run_words {word : List Char} {words : List (List Char)}
    (hwords : ∀ w ∈ word :: words, ∀ x ∈ w, isSearchChar x = true) {s : ParseState} {c : Cursor}
    (hc : c.rest = ['|'].intercalate (word :: words)) (hverbose : c.verbose = false)
    (hitems : s.items = []) (hgroups : s.groups = []) :
    ∃ span trees, List.Forall₂ Tree.Spells (word :: words) trees ∧
      s.run c.rest.length c = .ok (.ofBranches span (s.branches.reverse ++ trees)) := by
  induction words generalizing word s c with
  | nil =>
    obtain ⟨hword, -⟩ := List.forall_mem_cons.mp hwords
    rw [List.intercalate_singleton] at hc
    have hlast : c.rest = word ++ [] := by rw [hc, List.append_nil]
    obtain ⟨letters, after, hletters, hafter, hmode, hrun⟩ :=
      run_word hword 0 (s := s) hlast hverbose
    rw [hc, ← Nat.zero_add word.length, hrun,
      run_nil (s := { s with items := letters.reverse ++ s.items }) hafter hmode hgroups, tree_eq,
      hitems, List.append_nil]
    exact ⟨_, _, .cons (spells_ofItems _ hletters) .nil, rfl⟩
  | cons next words ih =>
    obtain ⟨hword, hrest⟩ := List.forall_mem_cons.mp hwords
    rw [List.intercalate_cons_cons, List.append_assoc, List.singleton_append] at hc
    obtain ⟨letters, after, hletters, hafter, hmode, hrun⟩ :=
      run_word hword (('|' :: ['|'].intercalate (next :: words)).length) (s := s) hc hverbose
    have hpass := rest_pass hafter
    obtain ⟨span, trees, htrees, htree⟩ :=
      ih hrest (s := ({ s with items := letters.reverse ++ s.items }.nextBranch after).1)
        (c := after.pass) hpass ((verbose_pass after).trans hmode) rfl hgroups
    refine ⟨span, .ofItems (after.since s.start) letters.reverse :: trees,
      .cons (spells_ofItems _ hletters) htrees, ?_⟩
    rw [hc, List.length_append, Nat.add_comm, hrun, List.length_cons, run_cons hafter hmode,
      ← hpass]
    refine htree.trans ?_
    rw [ParseState.nextBranch, hitems, List.append_nil, List.reverse_cons, List.append_assoc]
    rfl

/-- Trees are as deep as the deepest of them. -/
theorem anyTooDeep?_eq_none {room : Nat} {trees : List Tree}
    (h : ∀ tree ∈ trees, tree.tooDeep? room = none) : Tree.anyTooDeep? room trees = none := by
  induction trees with
  | nil => rfl
  | cons tree trees ih =>
    obtain ⟨htree, htrees⟩ := List.forall_mem_cons.mp h
    rw [Tree.anyTooDeep?, htree, ih htrees]
    rfl

/-- What holds whenever it is related to an element holds of all that lists of related elements
relate. -/
theorem forall_mem_of_forall₂ {α β : Type} {R : α → β → Prop} {P : β → Prop} {as : List α}
    {bs : List β} (h : List.Forall₂ R as bs) (hP : ∀ a b, R a b → P b) : ∀ b ∈ bs, P b := by
  induction h with
  | nil => exact fun _ hb => absurd hb List.not_mem_nil
  | cons hfirst _ ih => exact List.forall_mem_cons.mpr ⟨hP _ _ hfirst, ih⟩

/-- A character opens no level, and a word at most one. -/
theorem tooDeep?_of_spells {word : List Char} {tree : Tree} (h : tree.Spells word) (room : Nat) :
    tree.tooDeep? (room + 1) = none := by
  cases h with
  | empty => rfl
  | letter => rfl
  | letters span hletters =>
    rw [Tree.tooDeep?, if_neg (Nat.succ_ne_zero room)]
    refine anyTooDeep?_eq_none (forall_mem_of_forall₂ hletters ?_)
    rintro x tree ⟨place, rfl⟩
    rfl

/-- Branches that are words open at most two levels. -/
theorem tooDeep?_ofBranches {words : List (List Char)} {trees : List Tree} (span : Span)
    (h : List.Forall₂ Tree.Spells words trees) (room : Nat) :
    (Tree.ofBranches span trees).tooDeep? (room + 2) = none := by
  rw [Tree.ofBranches.eq_def]
  split
  case h_1 tree =>
    exact forall_mem_of_forall₂ h (fun _ _ hspells => tooDeep?_of_spells hspells (room + 1)) tree
      (List.mem_singleton_self tree)
  case h_2 =>
    rw [Tree.tooDeep?, if_neg (Nat.succ_ne_zero _)]
    exact anyTooDeep?_eq_none
      (forall_mem_of_forall₂ h fun _ _ hspells => tooDeep?_of_spells hspells room)

/-- A pattern of words is well formed and is read as the alternation of the words. -/
theorem ofPattern_words {words : List (List Char)} (hnone : words ≠ [])
    (hwords : ∀ w ∈ words, ∀ x ∈ w, isSearchChar x = true) :
    ∃ span trees, List.Forall₂ Tree.Spells words trees ∧
      Tree.ofPattern (['|'].intercalate words) = .ok (.ofBranches span trees) := by
  obtain ⟨word, words, rfl⟩ := List.exists_cons_of_ne_nil hnone
  let start := Cursor.ofPattern (['|'].intercalate (word :: words))
  obtain ⟨span, trees, htrees, hrun⟩ :=
    run_words hwords (c := start)
      (s := ⟨[], start.place, [], start.place, [], []⟩) rfl rfl rfl rfl
  refine ⟨span, trees, htrees, ?_⟩
  have hroom := tooDeep?_ofBranches span htrees (depthLimit - 2)
  rw [Tree.ofPattern]
  refine (congrArg (Except.bind · _) hrun).trans ?_
  simp only [Except.bind, List.reverse_nil, List.nil_append]
  rw [show depthLimit - 2 + 2 = depthLimit from rfl] at hroom
  simp only [hroom]
  rfl

end Folio.Pattern
