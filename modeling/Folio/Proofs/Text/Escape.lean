import Folio.Text.Escape

/-!
# Character references are undone by reading them

Escaping writes references, and a reader replaces them by the characters that they stand for. Every
ampersand of an escaped text begins such a reference, so what is read is the text itself.
-/

namespace Folio.Text

/-- A text with its character references replaced by what they stand for. Other ampersands stand for
themselves. -/
def unescape : List Char → List Char
  | '&' :: 'a' :: 'm' :: 'p' :: ';' :: rest => '&' :: unescape rest
  | '&' :: 'l' :: 't' :: ';' :: rest => '<' :: unescape rest
  | '&' :: 'g' :: 't' :: ';' :: rest => '>' :: unescape rest
  | '&' :: 'q' :: 'u' :: 'o' :: 't' :: ';' :: rest => '"' :: unescape rest
  | '&' :: 'a' :: 'p' :: 'o' :: 's' :: ';' :: rest => '\'' :: unescape rest
  | '&' :: '#' :: '3' :: '9' :: ';' :: rest => '\'' :: unescape rest
  | c :: rest => c :: unescape rest
  | [] => []

/-- A character other than an ampersand stands for itself. -/
theorem unescape_cons {c : Char} (h : c ≠ '&') (rest : List Char) :
    unescape (c :: rest) = c :: unescape rest := by
  rw [unescape]
  all_goals exact fun _ hampersand _ => h hampersand

/-- A text without an ampersand stands for itself. -/
theorem unescape_of_not_mem {s : List Char} (h : '&' ∉ s) : unescape s = s := by
  induction s with
  | nil => rfl
  | cons c s ih =>
    obtain ⟨hc, hs⟩ := List.ne_and_not_mem_of_not_mem_cons h
    rw [unescape_cons (Ne.symm hc), ih hs]

/-- References are longer than what they stand for. -/
theorem length_unescape_le (s : List Char) : (unescape s).length ≤ s.length := by
  fun_induction unescape s <;> simp only [List.length_cons, List.length_nil] <;> omega

/-- Every replacement of a format is read as the character that it replaces, and ampersands are
replaced. -/
structure Escapes.Readable (escapes : Escapes) : Prop where
  read : ∀ c reference, escapes c = some reference →
    ∀ rest, unescape (reference.toList ++ rest) = c :: unescape rest
  ampersand : escapes '&' ≠ none

/-- An escaped text is read as that text. -/
theorem Escapes.Readable.unescape_escapeWith {escapes : Escapes} (h : escapes.Readable)
    (s : List Char) : unescape (escapeWith escapes s) = s := by
  rw [escapeWith]
  induction s with
  | nil => rfl
  | cons c s ih =>
    rw [List.flatMap_cons]
    cases hescape : escapes c with
    | some reference => rw [h.read c reference hescape, ih]
    | none =>
      have hc : c ≠ '&' := fun hc => h.ampersand (hc ▸ hescape)
      rw [List.singleton_append, unescape_cons hc, ih]

/-- The references between tags are read. -/
theorem readable_textEscapes : Escapes.Readable textEscapes where
  read c reference h rest := by
    rw [textEscapes.eq_def] at h
    split at h <;> cases h <;> rfl
  ampersand := by decide

/-- The references in attribute values are read. -/
theorem readable_attributeEscapes : Escapes.Readable attributeEscapes where
  read c reference h rest := by
    rw [attributeEscapes.eq_def] at h
    split at h
    · cases h
      rfl
    · exact readable_textEscapes.read c reference h rest
  ampersand := by decide

/-- The references in XML are read. -/
theorem readable_xmlEscapes : Escapes.Readable xmlEscapes where
  read c reference h rest := by
    rw [xmlEscapes.eq_def] at h
    split at h
    · cases h
      rfl
    · cases h
      rfl
    · exact readable_textEscapes.read c reference h rest
  ampersand := by decide

/-- The references in articles and code listings are read. -/
theorem readable_quoteEscapes : Escapes.Readable quoteEscapes where
  read c reference h rest := by
    rw [quoteEscapes.eq_def] at h
    split at h
    · cases h
      rfl
    · cases h
      rfl
    · exact readable_textEscapes.read c reference h rest
  ampersand := by decide

/-- A character that a format replaces, and that none of its replacements has, is not in an escaped
text. -/
theorem not_mem_escapeWith {escapes : Escapes} {c : Char} (hc : escapes c ≠ none)
    (hreference : ∀ d reference, escapes d = some reference → c ∉ reference.toList)
    (s : List Char) : c ∉ escapeWith escapes s := by
  intro hmem
  obtain ⟨d, -, hd⟩ := List.mem_flatMap.mp hmem
  cases hescape : escapes d with
  | some reference =>
    rw [hescape] at hd
    exact hreference d reference hescape hd
  | none =>
    rw [hescape, List.mem_singleton] at hd
    exact hc (hd ▸ hescape)

/-- A text between tags begins no tag. -/
theorem not_mem_escapeWith_textEscapes (s : List Char) : '<' ∉ escapeWith textEscapes s := by
  refine not_mem_escapeWith (by decide) (fun d reference h => ?_) s
  rw [textEscapes.eq_def] at h
  split at h <;> cases h <;> decide

/-- An attribute value begins no tag and ends no attribute. -/
theorem not_mem_escapeWith_attributeEscapes {c : Char} (hc : c = '<' ∨ c = '"') (s : List Char) :
    c ∉ escapeWith attributeEscapes s := by
  refine not_mem_escapeWith ?_ (fun d reference h => ?_) s
  · rcases hc with rfl | rfl <;> decide
  · rw [attributeEscapes.eq_def] at h
    split at h
    · cases h
      rcases hc with rfl | rfl <;> decide
    · rw [textEscapes.eq_def] at h
      split at h <;> cases h <;> rcases hc with rfl | rfl <;> decide

/-- A text in XML begins no tag and ends no attribute. -/
theorem not_mem_escapeWith_xmlEscapes {c : Char} (hc : c = '<' ∨ c = '"') (s : List Char) :
    c ∉ escapeWith xmlEscapes s := by
  refine not_mem_escapeWith ?_ (fun d reference h => ?_) s
  · rcases hc with rfl | rfl <;> decide
  · rw [xmlEscapes.eq_def] at h
    split at h
    · cases h
      rcases hc with rfl | rfl <;> decide
    · cases h
      rcases hc with rfl | rfl <;> decide
    · rw [textEscapes.eq_def] at h
      split at h <;> cases h <;> rcases hc with rfl | rfl <;> decide

/-- A text in an article or a code listing begins no tag. -/
theorem not_mem_escapeWith_quoteEscapes (s : List Char) : '<' ∉ escapeWith quoteEscapes s := by
  refine not_mem_escapeWith (by decide) (fun d reference h => ?_) s
  rw [quoteEscapes.eq_def] at h
  split at h
  · cases h
    decide
  · cases h
    decide
  · rw [textEscapes.eq_def] at h
    split at h <;> cases h <;> decide

end Folio.Text
