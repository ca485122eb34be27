import Folio.Proofs.Json.Grammar

/-!
# Values that fit a shape

What is written for a record fits its shape. An object may be read with more fields than it was
written with, since missing ones are filled in; so what is found is named apart from what is
written. The text of a value that fits is one of the spellings of what is found in it.
-/

namespace Folio.Json

namespace Shape

/-- An entry of an object: its name, what is written under it, and what is found there. -/
structure Entry where
  name : String
  written : Value
  found : Value

/-- An entry that is found as it is written. -/
def Entry.same (name : String) (value : Value) : Entry := ⟨name, value, value⟩

/-- The entries as they are written. -/
def writtenEntries (entries : List Entry) : List (String × Value) :=
  entries.map fun entry => (entry.name, entry.written)

/-- The entries as they are found. -/
def foundEntries (entries : List Entry) : List (String × Value) :=
  entries.map fun entry => (entry.name, entry.found)

end Shape

open Shape (Entry foundEntries writtenEntries)

/-- A written value fits a shape, and another one, which it stands for, is found in it. -/
inductive Fits : Shape → Value → Value → Prop where
  | text {accepts : String → Bool} {t : String} (h : accepts t = true) :
      Fits (.text accepts) (.text t) (.text t)
  | flag (b : Bool) : Fits .flag (.flag b) (.flag b)
  | number {largest n : Nat} (hlargest : n ≤ largest) (hn : n ≤ maxNumber) :
      Fits (.number largest) (.number n) (.number n)
  | null (shape : Shape) : Fits (.optional shape) .null .null
  | present {shape : Shape} {written found : Value} (h : Fits shape written found)
      (hnull : written.print.head? ≠ some 'n') : Fits (.optional shape) written found
  | list {α : Type} {shape : Shape} {written found : α → Value} (items : List α)
      (h : ∀ a ∈ items, Fits shape (written a) (found a)) :
      Fits (.list shape) (.list (items.map written)) (.list (items.map found))
  | record {fields : Fields} (entries : List Entry) {all : List (String × Value)}
      (hknown : ∀ entry ∈ entries, (fields.lookup entry.name).isSome = true)
      (h : ∀ entry ∈ entries, ∀ shape absent, fields.lookup entry.name = some (shape, absent) →
        Fits shape entry.written entry.found)
      (hnodup : (entries.map Entry.name).Nodup)
      (hall : fill (foundEntries entries) fields = some all) :
      Fits (.record fields) (.object (writtenEntries entries)) (.object all)

/-- A written value without white space. -/
def bare (value : Value) : Padded := ⟨.none, value.print, .none⟩

/-- A written entry without white space. -/
def bareEntry (entry : String × Value) : Labelled :=
  ⟨.none, entry.1.toList.flatMap escapeChar, .none, bare entry.2⟩

/-- Items behind the first one are written with commas. -/
theorem printItems_eq (items : List Value) :
    Value.printItems items = commaed false ((items.map bare).map Padded.text) := by
  induction items with
  | nil => rfl
  | cons item items ih =>
    rw [Value.printItems, ih]
    simp [commaed, bare, Padded.text, Gap.none]

/-- A list is written without white space. -/
theorem print_list (items : List Value) :
    (Value.list items).print = listText (items.map bare) .none := by
  cases items with
  | nil => rfl
  | cons item items =>
    rw [Value.print, printItems_eq]
    simp [listText, commaed, bare, Padded.text, Gap.none]

/-- Entries behind the first one are written with commas. -/
theorem printEntries_eq (entries : List (String × Value)) :
    Value.printEntries entries =
      commaed false ((entries.map bareEntry).map Labelled.text) := by
  induction entries with
  | nil => rfl
  | cons entry entries ih =>
    rw [Value.printEntries, ih]
    simp [commaed, bareEntry, bare, quoted, Padded.text, Labelled.text, Gap.none]

/-- An object is written without white space. -/
theorem print_object (entries : List (String × Value)) :
    (Value.object entries).print = objectText (entries.map bareEntry) .none := by
  cases entries with
  | nil => rfl
  | cons entry entries =>
    rw [Value.print, printEntries_eq]
    simp [objectText, commaed, bareEntry, bare, quoted, Padded.text, Labelled.text, Gap.none]

/-- An entry as it is written, without white space. -/
def Shape.Entry.member (entry : Entry) : Member :=
  ⟨bareEntry (entry.name, entry.written), entry.name, entry.found⟩

/-- An object is written with its entries one after another. -/
theorem print_writtenEntries (entries : List Entry) :
    (Value.object (writtenEntries entries)).print =
      objectText ((entries.map Entry.member).map Member.toLabelled) .none := by
  rw [print_object, writtenEntries, List.map_map, List.map_map]
  rfl

/-- Entries under known names are all kept. -/
theorem known_members {fields : Fields} {entries : List Entry}
    (hknown : ∀ entry ∈ entries, (fields.lookup entry.name).isSome = true) :
    known fields (entries.map Entry.member) = foundEntries entries := by
  have hmembers : ∀ member ∈ entries.map Entry.member,
      (fields.lookup member.name).isSome = true := List.forall_mem_map.mpr hknown
  rw [known, List.filter_eq_self.mpr hmembers, List.map_map]
  rfl

/-- Entries under known names may stand in an object if their values are spelled. -/
theorem fitting_members {fields : Fields} {entries : List Entry}
    (hknown : ∀ entry ∈ entries, (fields.lookup entry.name).isSome = true)
    (hspells : ∀ entry ∈ entries, ∀ shape absent,
      fields.lookup entry.name = some (shape, absent) →
        Spells shape entry.found entry.written.print)
    (hnodup : (entries.map Entry.name).Nodup) : Fitting fields (entries.map Entry.member) where
  label := List.forall_mem_map.mpr fun entry _ => spellsText_escaped _
  other := List.forall_mem_map.mpr fun entry hentry hnone => by
    have hsome := hknown entry hentry
    rw [show fields.lookup entry.name = none from hnone] at hsome
    cases hsome
  value := List.forall_mem_map.mpr hspells
  nodup := by
    rw [known_members hknown, foundEntries, List.map_map]
    exact hnodup

/-- What is written for a value that fits a shape spells what is found in it. -/
theorem Fits.spells {shape : Shape} {written found : Value} (h : Fits shape written found) :
    Spells shape found written.print := by
  induction h with
  | text h => exact .text (spellsText_escaped _) h
  | flag b => exact .flag b
  | number hlargest hn => exact .number hlargest hn
  | null shape => exact .null shape
  | present h hnull ih => exact .present ih hnull
  | @list α shape written found items h ih =>
    let parts : List Item := items.map fun a => ⟨bare (written a), found a⟩
    have hparts : ∀ item ∈ parts, Spells shape item.found item.value :=
      List.forall_mem_map.mpr ih
    have hspells := Spells.list parts .none hparts
    rw [print_list, List.map_map]
    simpa [parts, Function.comp_def] using hspells
  | record entries hknown h hnodup hall ih =>
    rw [print_writtenEntries]
    exact (fitting_members hknown ih hnodup).spells .none (known_members hknown ▸ hall)

/-- A record that fits its shape is written as an object with entries that fit and fill the
fields. -/
theorem Fits.exists_members {fields : Fields} {written found : Value}
    (h : Fits (.record fields) written found) :
    ∃ members entries, written.print = objectText (members.map Member.toLabelled) .none ∧
      Fitting fields members ∧ fill (known fields members) fields = some entries ∧
        found = .object entries := by
  cases h with
  | record entries hknown h hnodup hall =>
    have hspells : ∀ entry ∈ entries, ∀ shape absent,
        fields.lookup entry.name = some (shape, absent) →
          Spells shape entry.found entry.written.print :=
      fun entry hentry shape absent hfield => (h entry hentry shape absent hfield).spells
    exact ⟨entries.map Entry.member, _, print_writtenEntries entries,
      fitting_members hknown hspells hnodup, known_members hknown ▸ hall, rfl⟩

end Folio.Json
