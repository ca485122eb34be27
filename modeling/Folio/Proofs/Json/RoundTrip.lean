import Folio.Json.Record
import Folio.Proofs.Json.Fit
import Folio.Proofs.Json.Reading

/-!
# Printed values are read back

What is printed for a value that fits a shape spells what is found in it, so it is read as that,
whatever stands behind it that may stand behind a value. A record survives being printed if what is
found in its text is read as the record.
-/

namespace Folio.Json

open Folio.Text (Symbol)

/-- What may stand behind a value: nothing, or the mark that follows an item or an entry. -/
def IsBehind (rest : List Symbol) : Prop :=
  ∀ c, rest.head? = some c → c = some ',' ∨ c = some ']' ∨ c = some '}'

/-- What may stand behind a printed value may stand behind a value. -/
theorem IsBehind.endsValue {rest : List Symbol} (h : IsBehind rest) : EndsValue rest :=
  fun c hc => Or.inr (h c hc)

/-- A reader finds a value where another one, which it stands for, was printed. -/
def Reads (read : Reader Value) (written found : Value) : Prop :=
  ∀ rest, IsBehind rest → read (written.print.map some ++ rest) = .ok (found, rest)

/-- A value that fits a shape is read back. -/
theorem Fits.reads {shape : Shape} {written found : Value} (h : Fits shape written found) :
    Reads shape.read written found :=
  fun rest hrest => h.spells.finds rest hrest.endsValue

/-- Items that are each read are read as a list. -/
theorem mapM_map_of_forall {α : Type} {found : α → Value} {read? : Value → Option α}
    {items : List α} (h : ∀ a ∈ items, read? (found a) = some a) :
    (items.map found).mapM read? = some items := by
  induction items with
  | nil => rfl
  | cons a items ih =>
    rw [List.map_cons, List.mapM_cons, h a List.mem_cons_self,
      ih fun b hb => h b (List.mem_cons_of_mem a hb)]
    rfl

namespace Record

variable {α : Type} [Record α]

/-- What is written for a record is read as that record. -/
def Lawful (α : Type) [Record α] : Prop :=
  ∃ found : α → Value, ∀ a, Reads (shape α).read (write a) (found a) ∧ read? (found a) = some a

/-- The text of a record is read as that record. -/
theorem parse_print (h : Lawful α) (a : α) : parse ((print a).map some) = .ok a := by
  obtain ⟨found, hfound⟩ := h
  obtain ⟨hreads, hread⟩ := hfound a
  have hvalue := hreads [] (by intro c hc; cases hc)
  rw [List.append_nil] at hvalue
  rw [parse, print, Shape.parse, hvalue]
  simp [bind, Except.bind, pure, Except.pure, dropBlank, hread]

/-- Different records have different texts. -/
theorem print_injective (h : Lawful α) : Function.Injective (print : α → List Char) := by
  intro a b hprint
  have hparse := parse_print h a
  rw [hprint, parse_print h b] at hparse
  exact (Except.ok.inj hparse).symm

/-- The text of a record that was read is read as the same record. -/
theorem reprint_of_reprint (h : Lawful α) {s : List Symbol} {t : List Char}
    (ht : reprint α s = .ok t) : reprint α (t.map some) = .ok t := by
  cases hparse : (parse s : Except Fault α) with
  | error fault => simp [reprint, hparse, Except.map] at ht
  | ok a =>
    have ha : print a = t := by simpa [reprint, hparse, Except.map] using ht
    rw [reprint, ← ha, parse_print h a]
    rfl

/-- Records of a type survive JSON: the text of each is read as that record, so no two share a text,
and the text that is written for what a text spells spells the same. -/
structure Survives (α : Type) [Record α] : Prop where
  parse_print : ∀ a : α, parse ((print a).map some) = .ok a
  print_injective : Function.Injective (print : α → List Char)
  reprint_of_reprint : ∀ (s : List Symbol) (t : List Char),
    reprint α s = .ok t → reprint α (t.map some) = .ok t

/-- Records that are read as they are written survive JSON. -/
theorem Lawful.survives (h : Lawful α) : Survives α :=
  ⟨parse_print h, print_injective h, fun _ _ => reprint_of_reprint h⟩

/-- What is written for a record fits the shape of its type, and what is found in it is read as that
record. -/
def Fitted (α : Type) [Record α] : Prop :=
  ∃ found : α → Value, ∀ a, Fits (shape α) (write a) (found a) ∧ read? (found a) = some a

/-- Records that fit their shape are read as they are written. -/
theorem Fitted.lawful (h : Fitted α) : Lawful α := by
  obtain ⟨found, hfound⟩ := h
  exact ⟨found, fun a => ⟨(hfound a).1.reads, (hfound a).2⟩⟩

/-- Lists of records fit if the records do. -/
theorem Fitted.list (h : Fitted α) : Fitted (List α) := by
  obtain ⟨found, hfound⟩ := h
  refine ⟨fun items => .list (items.map found), fun items => ⟨?_, ?_⟩⟩
  · exact .list items fun a _ => (hfound a).1
  · exact mapM_map_of_forall fun a _ => (hfound a).2

end Record

end Folio.Json
