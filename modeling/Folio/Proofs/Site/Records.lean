import Folio.Content.File
import Folio.Proofs.Blog.Record
import Folio.Proofs.Content.Record
import Folio.Proofs.Json.Cut
import Folio.Proofs.Json.Forms

/-!
# The records of the site as texts

Posts, the summaries of listings and the records of the content are all kept as JSON. How a text is
laid out does not matter: each record is read from all its forms. A text that is cut off is never
taken for a record, and the fault says that the text ends too early.
-/

namespace Folio.Site

open Folio.Blog (Meta Post)
open Folio.Content (About Achievement BioSection Education Experience FileFault HeroSlide InFile
  Profile Skill TechGroup)
open Folio.Json (Fault Record)
open Folio.Json.Record (Fitted ReadsForms parse print textBytes)
open Folio.Text (symbols)

/-- Posts, summaries and the records of the content are read from all their forms: from an object
with its entries in any order and with any other entries among them, and from a list of the values
of its fields. A known name that is given twice or not at all is refused. -/
theorem records_read_forms :
    ReadsForms Post ∧ ReadsForms Meta ∧ ReadsForms Profile ∧ ReadsForms HeroSlide ∧
      ReadsForms About ∧ ReadsForms BioSection ∧ ReadsForms TechGroup ∧ ReadsForms Skill ∧
      ReadsForms Experience ∧ ReadsForms Education ∧ ReadsForms Achievement :=
  ⟨Post.fitted.readsForms rfl, Meta.fitted.readsForms rfl, Profile.fitted.readsForms rfl,
    HeroSlide.fitted.readsForms rfl, About.fitted.readsForms rfl, BioSection.fitted.readsForms rfl,
    TechGroup.fitted.readsForms rfl, Skill.fitted.readsForms rfl, Experience.fitted.readsForms rfl,
    Education.fitted.readsForms rfl, Achievement.fitted.readsForms rfl⟩

/-- Whatever is left of the text of a record that is cut at a byte, it ends too early. -/
def EndsEarly (α : Type) [Record α] : Prop :=
  ∀ (a : α) (n : Nat), n < (textBytes (print a)).length →
    (parse (symbols ((textBytes (print a)).take n)) : Except Fault α) = .error .endOfText

/-- Whatever is left of the text of a record in a file, the fault names the file and says that the
text ends too early. -/
def EndsEarlyIn (α : Type) [Record α] [InFile α] (file : String) : Prop :=
  ∀ (a : α) (n : Nat), n < (textBytes (print a)).length →
    ∃ fault : FileFault,
      (InFile.parse (symbols ((textBytes (print a)).take n)) : Except FileFault α) = .error fault ∧
        fault.source = .endOfText ∧ fault.file = file ∧
          fault.message = "couldn't parse content file " ++ file

section

variable {α : Type} [Record α]

/-- Records that fit their shape and are no numbers end early where they are cut. -/
theorem endsEarly_of_fitted (h : Fitted α) (hwrite : ∀ (a : α) n, Record.write a ≠ .number n) :
    EndsEarly α :=
  fun a _ hn => h.parse_cut (hwrite a) hn

/-- The fault of a file is that of its text. -/
theorem EndsEarly.inFile [InFile α] (h : EndsEarly α) : EndsEarlyIn α (InFile.file α) := by
  intro a n hn
  refine ⟨⟨InFile.file α, .endOfText⟩, ?_, rfl, rfl, rfl⟩
  rw [InFile.parse, Content.parseFile, h a n hn]
  rfl

/-- Records of the content that fit their shape end early in their file. -/
theorem endsEarlyIn_of_fitted [InFile α] (h : Fitted α)
    (hwrite : ∀ (a : α) n, Record.write a ≠ .number n) : EndsEarlyIn α (InFile.file α) :=
  (endsEarly_of_fitted h hwrite).inFile

end

/-- The text of every post, summary and record of the content, cut at any byte, ends too early, and
for the records of the content the fault names their file. -/
theorem cut_records_end_early :
    EndsEarly Post ∧ EndsEarly Meta ∧ EndsEarlyIn Profile "profile.json" ∧
      EndsEarlyIn HeroSlide "profile.json" ∧ EndsEarlyIn About "about.json" ∧
      EndsEarlyIn BioSection "about.json" ∧ EndsEarlyIn TechGroup "about.json" ∧
      EndsEarlyIn Skill "skills.json" ∧ EndsEarlyIn (List Skill) "skills.json" ∧
      EndsEarlyIn Experience "experience.json" ∧ EndsEarlyIn Education "education.json" ∧
      EndsEarlyIn Achievement "achievements.json" :=
  ⟨endsEarly_of_fitted Post.fitted fun _ _ => nofun,
    endsEarly_of_fitted Meta.fitted fun _ _ => nofun,
    endsEarlyIn_of_fitted Profile.fitted fun _ _ => nofun,
    endsEarlyIn_of_fitted HeroSlide.fitted fun _ _ => nofun,
    endsEarlyIn_of_fitted About.fitted fun _ _ => nofun,
    endsEarlyIn_of_fitted BioSection.fitted fun _ _ => nofun,
    endsEarlyIn_of_fitted TechGroup.fitted fun _ _ => nofun,
    endsEarlyIn_of_fitted Skill.fitted fun _ _ => nofun,
    endsEarlyIn_of_fitted Skill.fitted.list fun _ _ => nofun,
    endsEarlyIn_of_fitted Experience.fitted fun _ _ => nofun,
    endsEarlyIn_of_fitted Education.fitted fun _ _ => nofun,
    endsEarlyIn_of_fitted Achievement.fitted fun _ _ => nofun⟩

end Folio.Site
