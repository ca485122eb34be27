import Folio.Proofs.Blog.Draft
import Folio.Proofs.Blog.Search
import Folio.Proofs.Pattern.Occurrence

/-!
# Searches for words

Words with bars between them are a pattern that finds, among the sources in ASCII, those in which
one of the words occurs when the case of letters does not count. The whole source is searched, its
front matter too, and a published source that is found adds its entry to what the other sources
list, or nothing to their fault.
-/

namespace Folio.Blog

/-- The pattern of a search for words. -/
def wordPattern (words : List String) : String := "|".intercalate words

/-- A word is made of letters, digits and spaces, and of one of these at least. -/
def IsWord (word : String) : Prop :=
  word ≠ "" ∧ ∀ x ∈ word.toList, Pattern.isSearchChar x = true

instance (word : String) : Decidable (IsWord word) :=
  decidable_of_iff (word ≠ "" ∧ word.toList.all Pattern.isSearchChar = true)
    (and_congr_right fun _ => List.all_eq_true)

/-- Some word occurs in a text when the case of letters does not count. -/
def WordOccurs (words : List String) (raw : String) : Prop :=
  ∃ word ∈ words, word.toList.map Char.toLower <:+: raw.toList.map Char.toLower

variable {words : List String} {slug raw : String} {front : FrontMatter} {body : List Char}

/-- A pattern of words that is not too large has an expression that matches, within ASCII, the texts
in which a word occurs. -/
theorem compile_wordPattern (hnone : words ≠ []) (hwords : ∀ word ∈ words, IsWord word)
    (hlimit : Pattern.compile (wordPattern words).toList ≠ .error Pattern.tooLargeMessage) :
    ∃ regex, Pattern.compile (wordPattern words).toList = .ok regex ∧
      ∀ raw : String, (∀ c ∈ raw.toList, c.toNat < 128) →
        (regex.matchesIn raw.toList = true ↔ WordOccurs words raw) := by
  have hpattern : (wordPattern words).toList = ['|'].intercalate (words.map String.toList) := by
    rw [wordPattern, String.toList_intercalate]
    rfl
  have hchars : ∀ w ∈ words.map String.toList, ∀ x ∈ w, Pattern.isSearchChar x = true :=
    List.forall_mem_map.mpr fun word hword => (hwords word hword).2
  obtain ⟨regex, hregex, hmatch⟩ :=
    Pattern.ofPattern_words_matchesIn (by simpa using hnone) hchars
  rw [← hpattern] at hregex
  have hcompile : Pattern.compile (wordPattern words).toList =
      if regex.isTooLarge then .error Pattern.tooLargeMessage else .ok regex := by
    rw [Pattern.compile, hregex]
  refine ⟨regex, ?_, fun raw hraw => ?_⟩
  · rw [hcompile] at hlimit ⊢
    split
    case isTrue hlarge => exact absurd (if_pos hlarge) hlimit
    case isFalse => rfl
  · rw [hmatch raw.toList hraw, WordOccurs]
    simp only [List.mem_map, exists_exists_and_eq_and]

/-- A source without fault adds what it lists to what the others list, and their fault stays. -/
theorem entries_insert_listed {search : Search} {source : Source} {entry : Meta}
    (hfault : ∀ fault, ¬ source.Faults search fault) (hlisted : source.listed? search = some entry)
    (earlier later : List Source) :
    match entries search (earlier ++ later) with
    | .error fault => entries search (earlier ++ source :: later) = .error fault
    | .ok found => ∃ before after, found = before ++ after ∧
        entries search (earlier ++ source :: later) = .ok (before ++ entry :: after) := by
  induction earlier with
  | nil =>
    rw [List.nil_append, List.nil_append, entries_cons_of_no_fault hfault, hlisted]
    cases entries search later with
    | error fault => rfl
    | ok found => exact ⟨[], found, rfl, rfl⟩
  | cons other earlier ih =>
    rw [List.cons_append, List.cons_append, entries, entries]
    cases other.entry? search with
    | error fault => rfl
    | ok first =>
      cases hrest : entries search (earlier ++ later) with
      | error fault =>
        rw [hrest] at ih
        simp only at ih
        rw [ih]
        rfl
      | ok found =>
        rw [hrest] at ih
        obtain ⟨before, after, rfl, hinserted⟩ := ih
        refine ⟨first.toList ++ before, after, (List.append_assoc ..).symm, ?_⟩
        rw [hinserted, List.append_assoc]
        rfl

/-- A source that is listed adds its entry to the listing of the others, and their fault stays. -/
theorem index_insert_listed {pattern : String} {regex : Pattern.Regex} {source : Source}
    {entry : Meta} (hcompile : Pattern.compile pattern.toList = .ok regex)
    (hfault : ∀ fault, ¬ source.Faults ⟨pattern, regex⟩ fault)
    (hlisted : source.listed? ⟨pattern, regex⟩ = some entry) (earlier later : List Source) :
    match index (earlier ++ later) pattern with
    | .error fault => index (earlier ++ source :: later) pattern = .error fault
    | .ok posts => ∃ listed,
      index (earlier ++ source :: later) pattern = .ok listed ∧ listed.Perm (entry :: posts) := by
  have hinserted := entries_insert_listed hfault hlisted earlier later
  rw [index_of_pattern hcompile, index_of_pattern hcompile]
  cases hentries : entries ⟨pattern, regex⟩ (earlier ++ later) with
  | error fault =>
    simp only [hentries] at hinserted
    rw [hinserted]
    rfl
  | ok found =>
    simp only [hentries] at hinserted
    obtain ⟨before, after, rfl, hinserted⟩ := hinserted
    refine ⟨newestFirst (before ++ entry :: after), by rw [hinserted]; rfl, ?_⟩
    calc (newestFirst (before ++ entry :: after)).Perm (before ++ entry :: after) :=
          newestFirst_perm _
      List.Perm _ (entry :: (before ++ after)) := List.perm_middle
      List.Perm _ (entry :: newestFirst (before ++ after)) := (newestFirst_perm _).symm.cons _

/-- A search for words lists a published source in ASCII exactly if one of the words occurs in it.
Words that are within the limit of size are a pattern, and wherever the source is put among others,
it adds its entry to what these list if a word occurs in it, and changes nothing if none does. -/
theorem word_search_lists (hnone : words ≠ []) (hwords : ∀ word ∈ words, IsWord word)
    (hlimit : Pattern.compile (wordPattern words).toList ≠ .error Pattern.tooLargeMessage)
    (hascii : ∀ c ∈ raw.toList, c.toNat < 128)
    (hfront : FrontMatter.read? raw.toList = some (front, body)) (hdraft : front.draft = false) :
    index [] (wordPattern words) = .ok [] ∧
    ∀ earlier later : List Source,
      (WordOccurs words raw →
        match index (earlier ++ later) (wordPattern words) with
        | .error fault =>
          index (earlier ++ .readable slug raw :: later) (wordPattern words) = .error fault
        | .ok posts => ∃ listed,
          index (earlier ++ .readable slug raw :: later) (wordPattern words) = .ok listed ∧
            listed.Perm (front.summary slug :: posts)) ∧
      (¬ WordOccurs words raw →
        index (earlier ++ .readable slug raw :: later) (wordPattern words) =
          index (earlier ++ later) (wordPattern words)) := by
  obtain ⟨regex, hcompile, hmatch⟩ := compile_wordPattern hnone hwords hlimit
  have hfault : ∀ fault, ¬ (Source.readable slug raw).Faults ⟨wordPattern words, regex⟩ fault :=
    Source.not_faults_of_some _ hfront
  have hfinds := Search.finds_of_compile hcompile raw
  have hempty : index [] (wordPattern words) = .ok [] := by
    rw [index_of_pattern hcompile, entries, Except.map, newestFirst, List.mergeSort_nil]
  refine ⟨hempty, fun earlier later => ⟨fun hoccurs => ?_, fun hmiss => ?_⟩⟩
  · rw [(hmatch raw hascii).mpr hoccurs] at hfinds
    refine index_insert_listed hcompile hfault ?_ earlier later
    simp [Source.listed?, hfront, hfinds, hdraft]
  · rw [← hmatch raw hascii, Bool.not_eq_true] at hmiss
    rw [hmiss] at hfinds
    have hlisted : (Source.readable slug raw).listed? ⟨wordPattern words, regex⟩ = none := by
      simp [Source.listed?, hfront, hfinds]
    rw [index_of_pattern hcompile, index_of_pattern hcompile, entries_insert hfault hlisted]

/-- A search for two words in a source that holds the first of them in another case. -/
theorem word_search_lists_lean :
    Pattern.compile (wordPattern ["leAn", "no 1"]).toList ≠ .error Pattern.tooLargeMessage ∧
    FrontMatter.read? (aboutRaw "Lean").toList = some (aboutFront, "Lean".toList) ∧
    index [] (wordPattern ["leAn", "no 1"]) = .ok [] ∧
    ∀ earlier later : List Source,
      (WordOccurs ["leAn", "no 1"] (aboutRaw "Lean") →
        match index (earlier ++ later) (wordPattern ["leAn", "no 1"]) with
        | .error fault =>
          index (earlier ++ .readable "lean" (aboutRaw "Lean") :: later)
            (wordPattern ["leAn", "no 1"]) = .error fault
        | .ok posts => ∃ listed,
          index (earlier ++ .readable "lean" (aboutRaw "Lean") :: later)
              (wordPattern ["leAn", "no 1"]) = .ok listed ∧
            listed.Perm (aboutFront.summary "lean" :: posts)) ∧
      (¬ WordOccurs ["leAn", "no 1"] (aboutRaw "Lean") →
        index (earlier ++ .readable "lean" (aboutRaw "Lean") :: later)
            (wordPattern ["leAn", "no 1"]) =
          index (earlier ++ later) (wordPattern ["leAn", "no 1"])) := by
  have hlimit : Pattern.compile (wordPattern ["leAn", "no 1"]).toList ≠
      .error Pattern.tooLargeMessage := by
    have hcompiles : (Pattern.compile (wordPattern ["leAn", "no 1"]).toList).isOk = true := by
      decide +kernel
    intro hlarge
    rw [hlarge] at hcompiles
    cases hcompiles
  have hfront : FrontMatter.read? (aboutRaw "Lean").toList = some (aboutFront, "Lean".toList) := by
    decide +kernel
  have hwords : ∀ word ∈ ["leAn", "no 1"], IsWord word := by decide
  have hascii : ∀ c ∈ (aboutRaw "Lean").toList, c.toNat < 128 := by
    have hall : (aboutRaw "Lean").toList.all (fun c => c.toNat < 128) = true := by decide
    exact fun c hc => of_decide_eq_true (List.all_eq_true.mp hall c hc)
  exact ⟨hlimit, hfront,
    word_search_lists (by simp) hwords hlimit hascii hfront rfl⟩

end Folio.Blog
