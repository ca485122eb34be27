/-!
# Blank characters

The Unicode White_Space property and the trimming functions that use it. Trimming removes a
longest run of blank characters from an end and touches nothing else.
-/

namespace Folio.Text

/-- A character with the Unicode White_Space property. -/
def isBlank (c : Char) : Bool :=
  let n := c.toNat
  (9 ≤ n && n ≤ 13) || n == 0x20 || n == 0x85 || n == 0xA0 || n == 0x1680 ||
    (0x2000 ≤ n && n ≤ 0x200A) || n == 0x2028 || n == 0x2029 || n == 0x202F ||
    n == 0x205F || n == 0x3000

/-- The text without its leading blank characters. -/
def trimStart (s : List Char) : List Char := s.dropWhile isBlank

/-- The text without the trailing characters of a class. -/
def dropEndWhile (p : Char → Bool) : List Char → List Char
  | [] => []
  | c :: rest =>
    match dropEndWhile p rest with
    | [] => if p c then [] else [c]
    | kept => c :: kept

/-- The text without its trailing blank characters. -/
def trimEnd (s : List Char) : List Char := dropEndWhile isBlank s

/-- The text without blank characters at either end. -/
def trim (s : List Char) : List Char := trimEnd (trimStart s)

/-- The part of `s` after a given start, when `s` has that start. -/
def dropStart? : List Char → List Char → Option (List Char)
  | [], s => some s
  | _ :: _, [] => none
  | p :: ps, c :: s => if p = c then dropStart? ps s else none

/-- A text has a given start exactly if it is that start and a rest. -/
theorem dropStart?_eq_some_iff {start s rest : List Char} :
    dropStart? start s = some rest ↔ s = start ++ rest := by
  induction start generalizing s with
  | nil => simp [dropStart?]
  | cons p start ih =>
    cases s with
    | nil => simp [dropStart?]
    | cons c s =>
      by_cases hpc : p = c
      · simp [dropStart?, hpc, ih]
      · simp [dropStart?, hpc, Ne.symm hpc]

/-- A start is dropped from what stands behind it. -/
theorem dropStart?_append (start rest : List Char) : dropStart? start (start ++ rest) = some rest :=
  dropStart?_eq_some_iff.mpr rfl

/-- The part of `s` before a given end, when `s` has that end. -/
def dropEnd? (ending s : List Char) : Option (List Char) :=
  (dropStart? ending.reverse s.reverse).map List.reverse

/-- A text has a given end exactly if it is a rest and that end. -/
theorem dropEnd?_eq_some_iff {ending s rest : List Char} :
    dropEnd? ending s = some rest ↔ s = rest ++ ending := by
  rw [dropEnd?, Option.map_eq_some_iff]
  constructor
  · rintro ⟨reversed, hreversed, rfl⟩
    rw [dropStart?_eq_some_iff, List.reverse_eq_iff, List.reverse_append,
      List.reverse_reverse] at hreversed
    exact hreversed
  · rintro rfl
    exact ⟨rest.reverse, by simp [dropStart?_eq_some_iff], List.reverse_reverse rest⟩

/-- Whether `s` starts with the given text. -/
def startsWith (start s : List Char) : Bool := (dropStart? start s).isSome

/-- A text starts with another one exactly if that is the front of it. -/
theorem startsWith_iff {start s : List Char} : startsWith start s = true ↔ start <+: s := by
  rw [startsWith, Option.isSome_iff_exists]
  simp only [dropStart?_eq_some_iff]
  exact exists_congr fun rest => eq_comm

/-- Whether a text occurs anywhere in `s`. -/
def occursIn (part : List Char) : List Char → Bool
  | [] => part.isEmpty
  | c :: rest => startsWith part (c :: rest) || occursIn part rest

/-- A text is found in another one exactly if it stands somewhere in it. -/
theorem occursIn_iff {part s : List Char} : occursIn part s = true ↔ part <:+: s := by
  induction s with
  | nil => rw [occursIn, List.isEmpty_iff, List.infix_nil]
  | cons c s ih => rw [occursIn, Bool.or_eq_true, startsWith_iff, ih, List.infix_cons_iff]

/-- The pieces of `s` between occurrences of a separator character; there is always one more
piece than there are separators. -/
def splitAt (sep : Char) : List Char → List (List Char)
  | [] => [[]]
  | c :: rest =>
    if c = sep then [] :: splitAt sep rest
    else
      match splitAt sep rest with
      | [] => [[c]]
      | piece :: pieces => (c :: piece) :: pieces

end Folio.Text
