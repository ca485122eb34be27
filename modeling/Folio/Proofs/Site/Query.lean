import Mathlib.Data.List.TakeDrop
import Folio.Proofs.Site.Address
import Folio.Site.Query

/-!
# Queries with one argument

A query that gives a name one percent-encoded text says of that name just this text: what is encoded
has no mark that ends an entry, and brackets that are percent-encoded in the text mean nothing
there.
-/

namespace Folio.Site

open Folio.Text (isUnreserved percentEncode)
open QueryToken (ofQuery)

/-- A character that begins no escape is a token of its own. -/
theorem ofQuery_cons {c : Char} (hc : c ≠ '%') (position : Nat) (rest : List Char) :
    ofQuery position (c :: rest) =
      ⟨c, [c], position + c.utf8Size⟩ :: ofQuery (position + c.utf8Size) rest := by
  rw [ofQuery]
  · intro more h
    exact absurd h hc
  · intro more h
    exact absurd h hc

/-- Tokens are written as the text that they come from. -/
theorem flatMap_written_ofQuery (position : Nat) (s : List Char) :
    (ofQuery position s).flatMap (·.written) = s := by
  fun_induction ofQuery position s with
  | case1 position rest ih => simp [ih]
  | case2 position rest ih => simp [ih]
  | case3 position c rest _ _ ih => simp [ih]
  | case4 => rfl

/-- The character of a token is one of the text, or a bracket that is an escape there. -/
theorem char_mem_ofQuery {position : Nat} {s : List Char} {t : QueryToken}
    (ht : t ∈ ofQuery position s) : t.char ∈ s ∨ t.char = '[' ∨ t.char = ']' := by
  fun_induction ofQuery position s with
  | case1 position rest ih =>
    rcases List.mem_cons.mp ht with rfl | ht
    · exact Or.inr (Or.inl rfl)
    · exact (ih ht).imp_left fun h => by simp [h]
  | case2 position rest ih =>
    rcases List.mem_cons.mp ht with rfl | ht
    · exact Or.inr (Or.inr rfl)
    · exact (ih ht).imp_left fun h => by simp [h]
  | case3 position c rest _ _ ih =>
    rcases List.mem_cons.mp ht with rfl | ht
    · exact Or.inl List.mem_cons_self
    · exact (ih ht).imp_left fun h => List.mem_cons_of_mem c h
  | case4 => cases ht

/-- A name without an escape is a row of tokens, one for each character, in front of others. -/
theorem ofQuery_append {name : List Char} (hname : '%' ∉ name) (position : Nat)
    (rest : List Char) :
    ∃ tokens behind, ofQuery position (name ++ rest) = tokens ++ ofQuery behind rest ∧
      tokens.map (·.char) = name ∧ tokens.flatMap (·.written) = name := by
  induction name generalizing position with
  | nil => exact ⟨[], position, rfl, rfl, rfl⟩
  | cons c name ih =>
    simp only [List.mem_cons, not_or] at hname
    obtain ⟨tokens, behind, htokens, hchars, hwritten⟩ := ih hname.2 (position + c.utf8Size)
    refine ⟨⟨c, [c], position + c.utf8Size⟩ :: tokens, behind, ?_, ?_, ?_⟩
    · rw [List.cons_append, ofQuery_cons (Ne.symm hname.1), htokens, List.cons_append]
    · rw [List.map_cons, hchars]
    · rw [List.flatMap_cons, hwritten, List.singleton_append]

/-- A text without a plus sign is decoded as it is. -/
theorem queryText_eq {s : List Char} (h : '+' ∉ s) :
    queryText s = String.ofList (decodeText s) := by
  have hmap : s.map (fun c => if c = '+' then ' ' else c) = s := by
    refine (List.map_congr_left fun c hc => ?_).trans (List.map_id _)
    rw [if_neg (show c ≠ '+' from fun hplus => h (hplus ▸ hc))]
    rfl
  rw [queryText, hmap]

/-- The value that the tokens of an encoded text are is that text. -/
theorem tokenText_percentEncode (position : Nat) (value : String) :
    tokenText (ofQuery position (percentEncode value.toList)) = value := by
  rw [tokenText, flatMap_written_ofQuery,
    queryText_eq (not_mem_percentEncode (by decide) (by decide)), decodeText_percentEncode,
    String.ofList_toList]

/-- A name that consists of unreserved characters is the name that its tokens are. -/
theorem tokenName_of_written {tokens : List QueryToken} {name : List Char}
    (hname : ∀ c ∈ name, isUnreserved c = true) (hchars : tokens.map (·.char) = name)
    (hwritten : tokens.flatMap (·.written) = name) : tokenName tokens = String.ofList name := by
  have hlength : name.length = tokens.length := by rw [← hchars, List.length_map]
  have hreserved {c : Char} (hc : isUnreserved c = false) : c ∉ name := fun hmem => by
    rw [hname c hmem] at hc
    cases hc
  rw [tokenName, hwritten, List.take_of_length_le (Nat.le_of_eq hlength),
    queryText_eq (hreserved (by decide)), decodeText_of_not_mem (hreserved (by decide))]

/-- The query that gives a name one text. -/
def queryOf (name value : String) : String :=
  name ++ "=" ++ String.ofList (percentEncode value.toList)

/-- A name that needs no escape in a query, and is not empty. -/
structure IsPlainName (name : String) : Prop where
  ne_empty : name ≠ ""
  plain : ∀ c ∈ name.toList, isUnreserved c = true

variable {name : String}

/-- A plain name has no character that is not unreserved. -/
theorem IsPlainName.not_mem (h : IsPlainName name) {c : Char} (hc : isUnreserved c = false) :
    c ∉ name.toList := fun hmem => by
  rw [h.plain c hmem] at hc
  cases hc

/-- The tokens of a query with one entry: those of the name, a sign of equality, and those of the
text. -/
theorem ofQuery_queryOf (h : IsPlainName name) (value : String) :
    ∃ first tokens equals behind,
      ofQuery 0 (queryOf name value).toList =
        (first :: tokens) ++ equals :: ofQuery behind (percentEncode value.toList) ∧
      equals.char = '=' ∧ (first :: tokens).map (·.char) = name.toList ∧
      (first :: tokens).flatMap (·.written) = name.toList := by
  have hlist : (queryOf name value).toList =
      name.toList ++ '=' :: percentEncode value.toList := by
    simp [queryOf]
  obtain ⟨tokens, behind, htokens, hchars, hwritten⟩ :=
    ofQuery_append (h.not_mem (c := '%') (by decide)) 0 ('=' :: percentEncode value.toList)
  cases tokens with
  | nil => exact absurd (String.toList_eq_nil_iff.mp hchars.symm) h.ne_empty
  | cons first tokens =>
    refine ⟨first, tokens, ⟨'=', ['='], behind + '='.utf8Size⟩, behind + '='.utf8Size, ?_, rfl,
      hchars, hwritten⟩
    rw [hlist, htokens, ofQuery_cons (by decide)]

/-- The place that an entry begins with is its name. -/
theorem readSlot_name (h : IsPlainName name) {first equals : QueryToken}
    {tokens rest : List QueryToken} (hequals : equals.char = '=')
    (hchars : (first :: tokens).map (·.char) = name.toList)
    (hwritten : (first :: tokens).flatMap (·.written) = name.toList) :
    readSlot (first :: tokens ++ equals :: rest) = .ok (.named name, equals :: rest) := by
  have hplain : ∀ t ∈ first :: tokens, isUnreserved t.char = true := fun t ht =>
    h.plain _ (hchars ▸ List.mem_map_of_mem ht)
  have hfirst : first.char ≠ '[' := fun hbracket => by
    have := hplain first List.mem_cons_self
    rw [hbracket] at this
    exact absurd this (by decide)
  have hinside : ∀ t ∈ first :: tokens, (!t.isOneOf ['[', '=', '&']) = true := by
    intro t ht
    have hchar := hplain t ht
    simp only [QueryToken.isOneOf, Bool.not_eq_true', List.contains_eq_mem, decide_eq_false_iff_not,
      List.mem_cons, List.not_mem_nil, or_false]
    rintro (hmark | hmark | hmark) <;> rw [hmark] at hchar <;> exact absurd hchar (by decide)
  have houtside : (!equals.isOneOf ['[', '=', '&']) = false := by
    simp [QueryToken.isOneOf, hequals]
  have hspan : (first :: tokens ++ equals :: rest).span (fun t => !t.isOneOf ['[', '=', '&']) =
      (first :: tokens, equals :: rest) := by
    rw [List.span_eq_takeWhile_dropWhile, List.takeWhile_append_of_pos hinside,
      List.dropWhile_append_of_pos hinside, List.takeWhile_cons_of_neg (by simp [houtside]),
      List.dropWhile_cons_of_neg (by simp [houtside]), List.append_nil]
  rw [List.cons_append] at hspan ⊢
  rw [readSlot, if_neg hfirst, hspan]
  simp only
  rw [tokenName_of_written h.plain hchars hwritten, String.ofList_toList]

/-- The tokens of an encoded text are all part of one value. -/
theorem ne_ampersand_of_mem_ofQuery {position : Nat} {s : List Char} {t : QueryToken}
    (ht : t ∈ ofQuery position (percentEncode s)) : t.char ≠ '&' := by
  intro hchar
  rcases char_mem_ofQuery ht with hmem | hbracket | hbracket
  · exact not_mem_percentEncode (by decide) (by decide) (hchar ▸ hmem)
  · exact absurd (hchar.symm.trans hbracket) (by decide)
  · exact absurd (hchar.symm.trans hbracket) (by decide)

/-- An entry gives its name its text, and nothing is left behind the text. -/
theorem readEntry_name (h : IsPlainName name) (value : String) {first equals : QueryToken}
    {tokens : List QueryToken} (hequals : equals.char = '=')
    (hchars : (first :: tokens).map (·.char) = name.toList)
    (hwritten : (first :: tokens).flatMap (·.written) = name.toList) (depth behind : Nat)
    (level : Level) :
    readEntry (depth + 1) level
        (first :: tokens ++ equals :: ofQuery behind (percentEncode value.toList)) =
      .ok (level.insertName name value, []) := by
  have hvalue : ∀ t ∈ ofQuery behind (percentEncode value.toList), (t.char ≠ '&' : Bool) = true :=
    fun t ht => by simpa using ne_ampersand_of_mem_ofQuery ht
  have htake := @List.takeWhile_append_of_pos _ _ _ [] hvalue
  have hdrop := @List.dropWhile_append_of_pos _ _ _ [] hvalue
  rw [List.append_nil, List.takeWhile_nil, List.append_nil] at htake
  rw [List.append_nil, List.dropWhile_nil] at hdrop
  have hequalsMark : equals.isOneOf ['[', '=', '&'] = true := by
    simp [QueryToken.isOneOf, hequals]
  rw [readEntry, readSlot_name h hequals hchars hwritten]
  simp only [bind, Except.bind]
  rw [List.dropWhile_cons_of_neg (by simp [hequalsMark])]
  dsimp only
  rw [if_neg (by rw [hequals]; decide), if_pos hequals, htake, hdrop, tokenText_percentEncode]
  rfl

/-- Without further tokens a query says nothing more. -/
theorem readEntries_nil (fuel depth : Nat) (level : Level) :
    readEntries fuel depth level [] = .ok level := by
  cases fuel with
  | zero => rw [readEntries]
  | succ fuel => rw [readEntries, List.dropWhile_nil]

/-- A query with one entry says of its name the text that it gives. -/
theorem readQuery_queryOf (h : IsPlainName name) (value : String) :
    readQuery (queryOf name value) = .ok [(name, .text value)] := by
  obtain ⟨first, tokens, equals, behind, htokens, hequals, hchars, hwritten⟩ :=
    ofQuery_queryOf h value
  have hfirst : first.char ≠ '&' := by
    have hmem : first.char ∈ name.toList := hchars ▸ List.mem_cons_self
    exact fun hmark => h.not_mem (by decide) (hmark ▸ hmem)
  have hentry := readEntry_name h value hequals hchars hwritten 4 behind (.group [])
  rw [readQuery, htokens]
  simp only [List.cons_append, List.length_cons] at hentry ⊢
  rw [readEntries, List.dropWhile_cons_of_neg (by simp [hfirst])]
  simp only [bind, Except.bind, hentry, readEntries_nil]
  rfl

/-- The argument of a query with one entry is the text that it gives. -/
theorem readArgument_queryOf (h : IsPlainName name) (value : String) :
    readArgument name (queryOf name value) = .ok value := by
  rw [readArgument, readQuery_queryOf h]
  simp [bind, Except.bind, pure, Except.pure, Level.fault?]

end Folio.Site
