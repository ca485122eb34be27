import Folio.Proofs.Text.Trim
import Folio.Text.Lines

/-!
# Lines that were put together

A text made of lines with a line feed behind each is cut into these lines again, and what follows
them is cut as if it stood alone. A line must not hold what would end it: a line feed, or a carriage
return in front of the line feed behind it.

A line may also be given with its own ending. Then the carriage return of such an ending and one in
front of a bare line feed are the same, and neither counts where blanks at the end do not. Where a
text has no carriage returns, one in front of every line feed leaves its lines as they are.
-/

namespace Folio.Text

/-- A text without a line feed that does not end with a carriage return. -/
def IsLine (line : List Char) : Prop := '\n' ∉ line ∧ line.getLast? ≠ some '\r'

instance : DecidablePred IsLine := fun line =>
  inferInstanceAs (Decidable ('\n' ∉ line ∧ line.getLast? ≠ some '\r'))

/-- Lines with a line feed behind each. -/
def endLines (parts : List (List Char)) : List Char := parts.flatMap fun line => line ++ ['\n']

/-- A character that ends no line stands in front of the first line. -/
theorem lines_cons {c : Char} {s : List Char} (hc : c ≠ '\n')
    (hreturn : c = '\r' → s.head? ≠ some '\n') : lines (c :: s) = consLine c (lines s) := by
  rw [lines]
  · exact hc
  · intro rest hr hs
    exact hreturn hr (by rw [hs, List.head?_cons])

/-- A line with a line feed behind it is the first line. -/
theorem lines_append_break {line : List Char} (hline : IsLine line) (rest : List Char) :
    lines (line ++ '\n' :: rest) = line :: lines rest := by
  obtain ⟨hbreak, hreturn⟩ := hline
  induction line with
  | nil => rfl
  | cons c line ih =>
    obtain ⟨hc, htail⟩ := List.ne_and_not_mem_of_not_mem_cons hbreak
    have hrest : lines (line ++ '\n' :: rest) = line :: lines rest := by
      apply ih htail
      intro hlast
      cases line with
      | nil => simp at hlast
      | cons d line => exact hreturn (by rwa [List.getLast?_cons_cons])
    rw [List.cons_append, lines_cons, hrest, consLine]
    · exact Ne.symm hc
    · -- A carriage return is not the last character of the line, so no line feed follows it.
      rintro rfl hhead
      cases line with
      | nil => simp at hreturn
      | cons d line =>
        rw [List.cons_append, List.head?_cons, Option.some.injEq] at hhead
        exact htail (hhead ▸ List.mem_cons_self)

/-- Lines with a line feed behind each are the first lines. -/
theorem lines_endLines_append {parts : List (List Char)} (hparts : ∀ line ∈ parts, IsLine line)
    (rest : List Char) : lines (endLines parts ++ rest) = parts ++ lines rest := by
  induction parts with
  | nil => rfl
  | cons line parts ih =>
    rw [List.forall_mem_cons] at hparts
    have h : endLines (line :: parts) ++ rest = line ++ '\n' :: (endLines parts ++ rest) := by
      simp [endLines]
    rw [h, lines_append_break hparts.1, ih hparts.2, List.cons_append]

/-- Visible characters and spaces are a line. -/
theorem isLine_of_isVisible {line : List Char} (h : ∀ c ∈ line, c = ' ' ∨ isVisible c = true) :
    IsLine line := by
  refine ⟨fun hmem => ?_, fun hlast => ?_⟩
  · simpa [isVisible] using h '\n' hmem
  · simpa [isVisible] using h '\r' (List.mem_of_getLast? hlast)

/-- What ends a line. -/
inductive LineEnd where
  | feed
  | returnFeed
  deriving Repr, DecidableEq

/-- The characters that end a line. -/
def LineEnd.text : LineEnd → List Char
  | .feed => ['\n']
  | .returnFeed => ['\r', '\n']

/-- A line with its ending. -/
structure EndedLine where
  text : List Char
  ending : LineEnd
  noFeed : '\n' ∉ text := by decide
  deriving Repr, DecidableEq

namespace EndedLine

/-- The line as it is written. -/
def written (line : EndedLine) : List Char := line.text ++ line.ending.text

/-- The line as it is cut out of a text. -/
def cut (line : EndedLine) : List Char :=
  match line.ending with
  | .feed => if line.text.getLast? = some '\r' then line.text.dropLast else line.text
  | .returnFeed => line.text

end EndedLine

/-- A line that a carriage return and a line feed end is the first line. -/
theorem lines_append_returnFeed {line : List Char} (hbreak : '\n' ∉ line) (rest : List Char) :
    lines (line ++ '\r' :: '\n' :: rest) = line :: lines rest := by
  induction line with
  | nil => rw [List.nil_append, lines]
  | cons c line ih =>
    obtain ⟨hc, htail⟩ := List.ne_and_not_mem_of_not_mem_cons hbreak
    rw [List.cons_append, lines_cons (Ne.symm hc), ih htail, consLine]
    -- Whatever follows the first character, it is not a line feed.
    rintro - hhead
    cases line with
    | nil => simp at hhead
    | cons d line =>
      rw [List.cons_append, List.head?_cons, Option.some.injEq] at hhead
      exact htail (hhead ▸ List.mem_cons_self)

namespace EndedLine

/-- A line with its ending is the first line, whatever follows it. -/
theorem lines_written_append (line : EndedLine) (rest : List Char) :
    lines (line.written ++ rest) = line.cut :: lines rest := by
  obtain ⟨text, ending, hfeed⟩ := line
  cases ending with
  | feed =>
    simp only [written, cut, LineEnd.text, List.append_assoc, List.cons_append, List.nil_append]
    split
    case isTrue hlast =>
      obtain ⟨front, rfl⟩ := List.getLast?_eq_some_iff.mp hlast
      rw [List.append_assoc, List.dropLast_concat]
      exact lines_append_returnFeed (fun hmem => hfeed (List.mem_append_left _ hmem)) rest
    case isFalse hlast => exact lines_append_break ⟨hfeed, hlast⟩ rest
  | returnFeed =>
    simp only [written, cut, LineEnd.text, List.append_assoc, List.cons_append, List.nil_append]
    exact lines_append_returnFeed hfeed rest

/-- Without blanks at the end, a line is cut out as it is. -/
theorem trimEnd_cut (line : EndedLine) : trimEnd line.cut = trimEnd line.text := by
  rw [cut]
  split
  case h_1 =>
    split
    case isTrue hlast =>
      obtain ⟨front, hfront⟩ := List.getLast?_eq_some_iff.mp hlast
      rw [hfront, List.dropLast_concat, trimEnd, trimEnd, dropEndWhile_concat, if_pos (by decide)]
    case isFalse => rfl
  case h_2 => rfl

end EndedLine

/-- Lines with their endings are the first lines. -/
theorem lines_flatMap_written_append (parts : List EndedLine) (rest : List Char) :
    lines (parts.flatMap EndedLine.written ++ rest) = parts.map EndedLine.cut ++ lines rest := by
  induction parts with
  | nil => rfl
  | cons line parts ih =>
    rw [List.flatMap_cons, List.append_assoc, line.lines_written_append, ih, List.map_cons,
      List.cons_append]

/-- A text with a carriage return put in front of every line feed. -/
def withReturns (s : List Char) : List Char :=
  s.flatMap fun c => if c = '\n' then ['\r', '\n'] else [c]

/-- Carriage returns in front of the line feeds leave the lines of a text as they are. -/
theorem lines_withReturns {s : List Char} (h : '\r' ∉ s) : lines (withReturns s) = lines s := by
  induction s with
  | nil => rfl
  | cons c s ih =>
    obtain ⟨hc, hs⟩ := List.ne_and_not_mem_of_not_mem_cons h
    rw [withReturns, List.flatMap_cons, ← withReturns]
    split
    case isTrue hfeed => rw [hfeed, List.cons_append, List.singleton_append, lines, lines, ih hs]
    case isFalse hfeed =>
      have hreturn (rest : List Char) : c = '\r' → rest.head? ≠ some '\n' := fun hr =>
        absurd hr.symm hc
      rw [List.singleton_append, lines_cons hfeed (hreturn _), ih hs, lines_cons hfeed (hreturn _)]

end Folio.Text
