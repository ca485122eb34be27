import Folio.Proofs.Json.RoundTrip
import Folio.Proofs.Text.Utf8
import Mathlib.Data.List.Forall2

/-!
# Records that fit their shape

A record is written as an object and read field by field, so it fits its shape if each of its fields
does, and what is read says what stands in the fields. The text of a record is kept as bytes: those
of different records differ, and what is read from bytes and written again is read as the same.
-/

namespace Folio.Json

open Folio.Text (Symbol symbols charBytes symbols_flatMap_charBytes)

open Shape (Entry foundEntries writtenEntries)

/-- Any text fits. -/
theorem fits_anyText (s : String) : Fits .anyText (.text s) (.text s) := .text rfl

/-- Texts fit as a list of texts. -/
theorem fits_texts (texts : List String) :
    Fits (.list .anyText) (.texts texts) (.texts texts) :=
  .list texts fun s _ => fits_anyText s

/-- Texts are found in a list of texts. -/
theorem Value.listOf?_texts (texts : List String) :
    Value.listOf? Value.text? (.texts texts) = some texts :=
  mapM_map_of_forall fun _ _ => rfl

/-- A text is found in itself only. -/
theorem Value.text?_eq_some_iff {value : Value} {s : String} :
    value.text? = some s ↔ value = .text s := by
  cases value <;> simp [Value.text?]

/-- A flag that may be missing is found in itself and in null only. -/
theorem Value.optional?_flag_eq_some_iff {value : Value} {flag : Option Bool} :
    Value.optional? Value.flag? value = some flag ↔ value = .ofOption .flag flag := by
  cases flag <;> cases value <;> simp [Value.optional?, Value.flag?, Value.ofOption]

/-- Items are all found if each of them is. -/
theorem mapM_eq_some_iff {α β : Type} {f : α → Option β} {items : List α} {found : List β} :
    items.mapM f = some found ↔ List.Forall₂ (fun item a => f item = some a) items found := by
  induction items generalizing found with
  | nil => simp [eq_comm]
  | cons item items ih =>
    rw [List.mapM_cons, Option.bind_eq_bind, Option.bind_eq_some_iff, List.forall₂_cons_left_iff]
    refine exists_congr fun a => ?_
    simp only [Option.bind_eq_bind, Option.bind_eq_some_iff, ih, Option.pure_def,
      Option.some.injEq]
    constructor
    · rintro ⟨ha, rest, hrest, rfl⟩
      exact ⟨rest, ha, hrest, rfl⟩
    · rintro ⟨rest, ha, hrest, rfl⟩
      exact ⟨ha, rest, hrest, rfl⟩

/-- A list is read if it is one and each of its items is read. -/
theorem Value.listOf?_eq_some_iff {α : Type} {item? : Value → Option α} {value : Value}
    {found : List α} :
    Value.listOf? item? value = some found ↔
      ∃ items, value = .list items ∧
        List.Forall₂ (fun item a => item? item = some a) items found := by
  cases value <;> simp [Value.listOf?, mapM_eq_some_iff]

/-- Items that are read from what is written for them only are read from a list of that only. -/
theorem Value.listOf?_eq_some_iff_of {α : Type} {item? : Value → Option α} {write : α → Value}
    (h : ∀ value a, item? value = some a ↔ value = write a) {value : Value} {found : List α} :
    Value.listOf? item? value = some found ↔ value = .list (found.map write) := by
  have hitems (items : List Value) :
      List.Forall₂ (fun item a => item? item = some a) items found ↔ items = found.map write := by
    simp only [h]
    rw [← List.forall₂_eq_eq_eq, List.forall₂_map_right_iff]
  simp only [Value.listOf?_eq_some_iff, hitems, exists_eq_right]

namespace Record

variable {α β : Type}

/-- A field is read from the entry of its name. -/
theorem field?_eq_some_iff {read? : Value → Option α} {name : String} {value : Value}
    {a : α} : field? read? name value = some a ↔
      ∃ entry, value.entry? name = some entry ∧ read? entry = some a := by
  rw [field?, Option.bind_eq_some_iff]

/-- A field is read from the entry of its name, and the rest of a record is read behind it. -/
theorem bind_field? {read? : Value → Option α} {name : String} {entries : List (String × Value)}
    {value : Value} {a : α} {next : α → Option β} {b : β}
    (hentry : entries.lookup name = some value) (hread : read? value = some a)
    (hnext : next a = some b) : (field? read? name (.object entries) >>= next) = some b := by
  have hfield : field? read? name (.object entries) = some a := by
    rw [field?, Value.entry?, hentry, Option.bind_some, hread]
  rw [hfield]
  exact hnext

variable [Record α] {fields : List (String × Shape × Option Value)}

/-- Records fit their shape if each entry fits a field, and what is found fills the fields of an
object that is read as the record. -/
theorem fitted_of_entries (entries : α → List Entry) (found : α → List (String × Value))
    (hshape : shape α = .record fields)
    (hwrite : ∀ a : α, write a = .object (writtenEntries (entries a)))
    (hnodup : ∀ a, ((entries a).map Entry.name).Nodup)
    (hfits : ∀ a, ∀ entry ∈ entries a, ∃ shape absent,
      fields.lookup entry.name = some (shape, absent) ∧ Fits shape entry.written entry.found)
    (hfound : ∀ a, fill (foundEntries (entries a)) fields = some (found a))
    (hread : ∀ a : α, read? (.object (found a)) = some a) : Fitted α := by
  refine ⟨fun a => .object (found a), fun a => ⟨?_, hread a⟩⟩
  rw [hshape, hwrite]
  refine .record (entries a) (fun entry hentry => ?_) (fun entry hentry shape absent hfield => ?_)
    (hnodup a) (hfound a)
  · obtain ⟨shape, absent, hfield, -⟩ := hfits a entry hentry
    rw [hfield]
    rfl
  · obtain ⟨_, _, hknown, hentryFits⟩ := hfits a entry hentry
    cases hknown.symm.trans hfield
    exact hentryFits

/-- Records that write all their fields in order fit their shape if each field does. -/
theorem fitted_of_write {written : α → List (String × Value)} (hshape : shape α = .record fields)
    (hwrite : ∀ a : α, write a = .object (written a))
    (hnodup : ∀ a, ((written a).map Prod.fst).Nodup)
    (hfits : ∀ a, ∀ entry ∈ written a, ∃ shape absent,
      fields.lookup entry.1 = some (shape, absent) ∧ Fits shape entry.2 entry.2)
    (hfound : ∀ a, fill (written a) fields = some (written a))
    (hread : ∀ a : α, read? (.object (written a)) = some a) : Fitted α := by
  let entries (a : α) : List Entry := (written a).map fun entry => .same entry.1 entry.2
  have hentries (a : α) : writtenEntries (entries a) = written a ∧
      foundEntries (entries a) = written a ∧
        (entries a).map Entry.name = (written a).map Prod.fst := by
    simp [entries, writtenEntries, foundEntries, Entry.same, Function.comp_def]
  refine fitted_of_entries entries written hshape (fun a => ?_) (fun a => ?_) (fun a => ?_)
    (fun a => ?_) hread
  · rw [(hentries a).1, hwrite]
  · rw [(hentries a).2.2]
    exact hnodup a
  · exact List.forall_mem_map.mpr (hfits a)
  · rw [(hentries a).2.1]
    exact hfound a

/-- A text is read as a record only if a value that is read as the record stands in it. -/
theorem exists_value_of_parse {raw : List Symbol} {a : α} (h : parse raw = .ok a) :
    ∃ value, (shape α).parse raw = .ok value ∧ read? value = some a := by
  rw [parse] at h
  cases hvalue : (shape α).parse raw with
  | error fault =>
    rw [hvalue] at h
    cases h
  | ok value =>
    rw [hvalue] at h
    cases hread : (read? value : Option α) with
    | none => simp [bind, Except.bind, hread, throw, throwThe, MonadExceptOf.throw] at h
    | some b =>
      simp only [bind, Except.bind, hread, pure, Except.pure, Except.ok.injEq] at h
      exact ⟨value, rfl, h ▸ hread⟩

/-- The bytes of a text. -/
def textBytes (t : List Char) : List Nat := t.flatMap charBytes

/-- Records of a type survive being kept as bytes: the bytes of the text of each are read as that
record, so those of different records differ; and if bytes are read as a record, the bytes of the
answer are read as the same record and answered by the same text. -/
structure SurvivesBytes (α : Type) [Record α] : Prop where
  parse_bytes : ∀ a : α, parse (symbols (textBytes (print a))) = .ok a
  bytes_injective : Function.Injective fun a : α => textBytes (print a)
  parse_answer : ∀ (raw : List Nat) (t : List Char), reprint α (symbols raw) = .ok t →
    (parse (symbols (textBytes t)) : Except Fault α) = parse (symbols raw) ∧
      reprint α (symbols (textBytes t)) = .ok t

/-- Records that are read as they are written survive being kept as bytes. -/
theorem Lawful.survivesBytes (h : Lawful α) : SurvivesBytes α := by
  have hsymbols (t : List Char) : symbols (textBytes t) = t.map some := symbols_flatMap_charBytes t
  have hparse (a : α) : parse (symbols (textBytes (print a))) = .ok a := by
    rw [hsymbols, parse_print h]
  refine ⟨hparse, fun a b hbytes => ?_, fun raw t ht => ?_⟩
  · have ha := hparse a
    rw [show textBytes (print a) = textBytes (print b) from hbytes, hparse b] at ha
    exact (Except.ok.inj ha).symm
  · rw [hsymbols]
    refine ⟨?_, reprint_of_reprint h ht⟩
    cases hparse : (parse (symbols raw) : Except Fault α) with
    | error fault => simp [reprint, hparse, Except.map] at ht
    | ok a =>
      have ha : print a = t := by simpa [reprint, hparse, Except.map] using ht
      rw [← ha, parse_print h]

end Record

end Folio.Json
