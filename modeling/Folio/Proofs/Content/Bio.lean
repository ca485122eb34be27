import Folio.Proofs.Content.Record
import Folio.Proofs.Json.Forms
import Mathlib.Data.List.Forall2
import Mathlib.Logic.Relation

/-!
# What is shown of the bio

The sections of a document are read one for one and in order, and a section without a flag is read
as one whose flag is null. What is shown is what those sections say that are not hidden, so nothing
in a hidden section has a say in it, nor whether it is there at all.
-/

namespace Folio.Content

open Folio.Json (Fault Fitting Gap Member Record Spells Value fill known objectText)
open Folio.Json.Record (field?_eq_some_iff fieldsOf)
open Folio.Text (Symbol)

/-- A section of the bio is what an item of a document says. -/
structure BioSection.IsRead (item : Value) (bio : BioSection) : Prop where
  label : item.entry? "section" = some (.text bio.label)
  description : item.entry? "description" = some (TrustedHtml.writeList bio.description)
  excluded : item.entry? "excluded" = some (.ofOption .flag bio.excluded)

/-- A group of icons is what an item of a document says. -/
structure TechGroup.IsRead (item : Value) (group : TechGroup) : Prop where
  heading : item.entry? "heading" = some (.text group.heading)
  icons : item.entry? "icons" = some (.texts group.icons)

/-- Fragments are read from what is written for them only. -/
theorem readList?_eq_some_iff {value : Value} {fragments : List TrustedHtml} :
    TrustedHtml.readList? value = some fragments ↔ value = TrustedHtml.writeList fragments := by
  have hitem (value : Value) (fragment : TrustedHtml) :
      value.text?.map TrustedHtml.mk = some fragment ↔ value = .text fragment.text := by
    obtain ⟨text⟩ := fragment
    cases value <;> simp [Value.text?]
  rw [TrustedHtml.readList?, Value.listOf?_eq_some_iff_of hitem, TrustedHtml.writeList, Value.texts,
    List.map_map]
  rfl

/-- A section of the bio is read from what says it. -/
theorem BioSection.isRead_of_read? {item : Value} {bio : BioSection}
    (h : Record.read? item = some bio) : bio.IsRead item := by
  obtain ⟨label, hlabel, h⟩ := Option.bind_eq_some_iff.mp h
  obtain ⟨description, hdescription, h⟩ := Option.bind_eq_some_iff.mp h
  obtain ⟨excluded, hexcluded, h⟩ := Option.bind_eq_some_iff.mp h
  cases h
  simp only [field?_eq_some_iff, Value.text?_eq_some_iff, exists_eq_right] at hlabel
  simp only [field?_eq_some_iff, readList?_eq_some_iff, exists_eq_right] at hdescription
  simp only [field?_eq_some_iff, Value.optional?_flag_eq_some_iff, exists_eq_right] at hexcluded
  exact ⟨hlabel, hdescription, hexcluded⟩

/-- A group of icons is read from what says it. -/
theorem TechGroup.isRead_of_read? {item : Value} {group : TechGroup}
    (h : Record.read? item = some group) : group.IsRead item := by
  obtain ⟨heading, hheading, h⟩ := Option.bind_eq_some_iff.mp h
  obtain ⟨icons, hicons, h⟩ := Option.bind_eq_some_iff.mp h
  cases h
  simp only [field?_eq_some_iff, Value.text?_eq_some_iff, exists_eq_right] at hheading
  simp only [field?_eq_some_iff, Value.listOf?_eq_some_iff_of fun _ _ => Value.text?_eq_some_iff,
    exists_eq_right] at hicons
  exact ⟨hheading, hicons⟩

/-- The sections and the groups of icons of a document are read one for one and in order. -/
structure About.IsRead (document : Value) (about : About) : Prop where
  sections : ∃ items, document.entry? "About" = some (.list items) ∧
    List.Forall₂ BioSection.IsRead items about.sections
  techStack : ∃ items, document.entry? "TechStack" = some (.list items) ∧
    List.Forall₂ TechGroup.IsRead items about.techStack

/-- An about section is read from what says it. -/
theorem About.isRead_of_read? {document : Value} {about : About}
    (h : Record.read? document = some about) : about.IsRead document := by
  obtain ⟨sections, hsections, h⟩ := Option.bind_eq_some_iff.mp h
  obtain ⟨groups, hgroups, h⟩ := Option.bind_eq_some_iff.mp h
  cases h
  obtain ⟨entry, hentry, hread⟩ := field?_eq_some_iff.mp hsections
  obtain ⟨items, rfl, hitems⟩ := Value.listOf?_eq_some_iff.mp hread
  obtain ⟨entry', hentry', hread'⟩ := field?_eq_some_iff.mp hgroups
  obtain ⟨items', rfl, hitems'⟩ := Value.listOf?_eq_some_iff.mp hread'
  exact ⟨⟨items, hentry, hitems.imp fun _ _ => BioSection.isRead_of_read?⟩,
    ⟨items', hentry', hitems'.imp fun _ _ => TechGroup.isRead_of_read?⟩⟩

/-- In whatever form a section stands in a document as an object, its flag is read as what stands
there, and as null if there is none. -/
theorem BioSection.excluded_of_spells {members : List Member}
    (h : Fitting (fieldsOf BioSection) members) {gap : Gap} {item : Value}
    (hspells : Spells (Record.shape BioSection) item
      (objectText (members.map Member.toLabelled) gap)) :
    item.entry? "excluded" =
      ((known (fieldsOf BioSection) members).lookup "excluded").or (some .null) :=
  h.entry?_of_spells hspells rfl

/-- A section is shown if its flag says so, or if it has no flag and no `side` in its label. -/
def BioSection.IsShown (bio : BioSection) : Prop :=
  bio.excluded = some false ∨ bio.excluded = none ∧ ¬ "side".toList <:+: bio.label.toList

instance : DecidablePred BioSection.IsShown := fun bio =>
  inferInstanceAs (Decidable (bio.excluded = some false ∨
    bio.excluded = none ∧ ¬ "side".toList <:+: bio.label.toList))

/-- The sections that are not shown are those that are hidden. -/
theorem BioSection.not_isExcluded_iff {bio : BioSection} :
    (!bio.isExcluded) = true ↔ bio.IsShown := by
  rw [IsShown, isExcluded, Bool.not_eq_true', ← Bool.not_eq_true]
  cases bio.excluded with
  | none => simp [Text.occursIn_iff]
  | some flag => cases flag <;> simp

/-- What is shown is what the sections say that are shown. -/
theorem visibleFragments_eq (sections : List BioSection) :
    visibleFragments sections =
      (sections.filter fun bio => bio.IsShown).flatMap BioSection.description := by
  rw [visibleFragments]
  congr 1
  refine List.filter_congr fun bio _ => ?_
  rw [Bool.eq_iff_iff, BioSection.not_isExcluded_iff, decide_eq_true_iff]

/-- What is shown of two lists of sections is shown one after the other. -/
theorem visibleFragments_append (sections others : List BioSection) :
    visibleFragments (sections ++ others) =
      visibleFragments sections ++ visibleFragments others := by
  rw [visibleFragments, List.filter_append, List.flatMap_append]
  rfl

/-- Nothing is shown of a hidden section. -/
theorem visibleFragments_cons_of_not_isShown {bio : BioSection} (h : ¬ bio.IsShown)
    (sections : List BioSection) :
    visibleFragments (bio :: sections) = visibleFragments sections := by
  rw [visibleFragments_eq, visibleFragments_eq, List.filter_cons_of_neg (by simpa using h)]

/-- A change to what is hidden: what a hidden section says is replaced, or a hidden section is put
in or taken out. -/
inductive HiddenChange : List BioSection → List BioSection → Prop where
  | replace (before after : List BioSection) {bio : BioSection} (h : ¬ bio.IsShown)
      (description : List TrustedHtml) :
      HiddenChange (before ++ bio :: after) (before ++ { bio with description } :: after)
  | insert (before after : List BioSection) {bio : BioSection} (h : ¬ bio.IsShown) :
      HiddenChange (before ++ after) (before ++ bio :: after)
  | remove (before after : List BioSection) {bio : BioSection} (h : ¬ bio.IsShown) :
      HiddenChange (before ++ bio :: after) (before ++ after)

/-- A change to what is hidden does not change what is shown. -/
theorem HiddenChange.visibleFragments_eq {sections changed : List BioSection}
    (h : HiddenChange sections changed) :
    visibleFragments changed = visibleFragments sections := by
  cases h with
  | @replace before after bio h description =>
    have h' : ¬ ({ bio with description } : BioSection).IsShown := h
    rw [visibleFragments_append, visibleFragments_append, visibleFragments_cons_of_not_isShown h,
      visibleFragments_cons_of_not_isShown h']
  | insert before after h =>
    rw [visibleFragments_append, visibleFragments_append, visibleFragments_cons_of_not_isShown h]
  | remove before after h =>
    rw [visibleFragments_append, visibleFragments_append, visibleFragments_cons_of_not_isShown h]

/-- However often what is hidden is changed, what is shown stays the same. -/
theorem visibleFragments_of_hiddenChanges {sections changed : List BioSection}
    (h : Relation.ReflTransGen HiddenChange sections changed) :
    visibleFragments changed = visibleFragments sections := by
  induction h with
  | refl => rfl
  | tail _ hchange ih => rw [hchange.visibleFragments_eq, ih]

end Folio.Content
