import Folio.Content.Bio
import Folio.Content.Career
import Folio.Content.Profile
import Folio.Proofs.Json.Record

/-!
# Content survives JSON

Every record of the content files is read as what it was written from, whatever texts, lists and
levels it holds. Most records are written with all their fields. A section of the bio without a flag
is written without one, and no flag is read as none and not as a flag that says no; so what is
hidden stays hidden and what is shown stays shown.
-/

namespace Folio.Content

open Folio.Json (Fits Record Shape Value fits_anyText fits_texts)
open Folio.Json.Record (Fitted Lawful SurvivesBytes bind_field? fitted_of_entries fitted_of_write
  parse print textBytes)
open Folio.Json.Shape (Entry)

/-- Written markup fits as a list of texts. -/
theorem fits_writeList (fragments : List TrustedHtml) :
    Fits TrustedHtml.listShape (TrustedHtml.writeList fragments)
      (TrustedHtml.writeList fragments) :=
  fits_texts _

/-- Written markup is that markup. -/
theorem readList?_writeList (fragments : List TrustedHtml) :
    TrustedHtml.readList? (TrustedHtml.writeList fragments) = some fragments := by
  rw [TrustedHtml.writeList, Value.texts, List.map_map]
  exact Json.mapM_map_of_forall fun _ _ => rfl

/-- A written flag that may be missing fits. -/
theorem fits_optionalFlag (flag : Option Bool) :
    Fits (.optional .flag) (.ofOption .flag flag) (.ofOption .flag flag) := by
  cases flag with
  | none => exact .null _
  | some b => exact .present (.flag b) (by cases b <;> decide)

/-- A written text that may be missing fits. -/
theorem fits_optionalText (text : Option String) :
    Fits (.optional .anyText) (.ofOption .text text) (.ofOption .text text) := by
  cases text with
  | none => exact .null _
  | some s =>
    refine .present (fits_anyText s) ?_
    rw [Value.ofOption, Value.print, Json.quoted, List.cons_append, List.head?_cons]
    decide

/-- A flag that may be missing is found as it is, and a missing one is not one that says no. -/
theorem optional?_flag (flag : Option Bool) :
    Value.optional? Value.flag? (.ofOption .flag flag) = some flag := by
  cases flag <;> rfl

/-- A text that may be missing is found as it is. -/
theorem optional?_text (text : Option String) :
    Value.optional? Value.text? (.ofOption .text text) = some text := by
  cases text <;> rfl

/-- The entries of a section of the bio: the flag is among them if there is one. -/
def BioSection.entries (bio : BioSection) : List Entry :=
  [.same "section" (.text bio.label),
    .same "description" (TrustedHtml.writeList bio.description)] ++
  match bio.excluded with
  | some flag => [.same "excluded" (.flag flag)]
  | none => []

/-- Sections of the bio fit their shape. -/
theorem BioSection.fitted : Fitted BioSection := by
  refine fitted_of_entries BioSection.entries
    (fun bio =>
      [("section", .text bio.label), ("description", TrustedHtml.writeList bio.description),
        ("excluded", .ofOption .flag bio.excluded)]) rfl ?_ ?_ ?_ ?_ ?_
  all_goals rintro ⟨label, description, excluded⟩
  · cases excluded <;> rfl
  · cases excluded <;> simp [BioSection.entries, Entry.same]
  · have hflag (flag : Bool) := fits_optionalFlag (some flag)
    cases excluded <;> simp only [BioSection.entries, List.cons_append, List.nil_append,
      List.forall_mem_cons, List.not_mem_nil, false_imp_iff, implies_true, and_true]
    · exact ⟨⟨_, _, rfl, fits_anyText _⟩, _, _, rfl, fits_writeList _⟩
    · exact ⟨⟨_, _, rfl, fits_anyText _⟩, ⟨_, _, rfl, fits_writeList _⟩, _, _, rfl, hflag _⟩
  · cases excluded <;> rfl
  · refine bind_field? rfl rfl ?_
    refine bind_field? rfl (readList?_writeList _) ?_
    exact bind_field? rfl (optional?_flag _) rfl

/-- Groups of icons fit their shape. -/
theorem TechGroup.fitted : Fitted TechGroup := by
  refine fitted_of_write rfl (fun _ => rfl) (fun _ => by simp) (fun group => ?_) (fun _ => rfl)
    fun group => ?_
  · simp only [List.forall_mem_cons, List.not_mem_nil, false_imp_iff, implies_true, and_true]
    exact ⟨⟨_, _, rfl, fits_anyText _⟩, _, _, rfl, fits_texts _⟩
  · refine bind_field? rfl rfl ?_
    exact bind_field? rfl (Value.listOf?_texts _) rfl

/-- About sections fit their shape. -/
theorem About.fitted : Fitted About := by
  obtain ⟨sections, hsections⟩ := BioSection.fitted.list
  obtain ⟨groups, hgroups⟩ := TechGroup.fitted.list
  refine fitted_of_entries
    (fun about =>
      [⟨"About", Record.write about.sections, sections about.sections⟩,
        ⟨"TechStack", Record.write about.techStack, groups about.techStack⟩])
    _ rfl (fun _ => rfl) (fun _ => by simp) (fun about => ?_) (fun _ => rfl) fun about => ?_
  · simp only [List.forall_mem_cons, List.not_mem_nil, false_imp_iff, implies_true, and_true]
    exact ⟨⟨_, _, rfl, (hsections _).1⟩, _, _, rfl, (hgroups _).1⟩
  · refine bind_field? rfl (hsections _).2 ?_
    exact bind_field? rfl (hgroups _).2 rfl

/-- Skills fit their shape, at every level. -/
theorem Skill.fitted : Fitted Skill := by
  refine fitted_of_write rfl (fun _ => rfl) (fun _ => by simp) (fun skill => ?_) (fun _ => rfl)
    fun skill => ?_
  · have hlevel : skill.level.toNat ≤ 255 := Nat.le_of_lt_succ skill.level.toNat_lt
    have hexact : skill.level.toNat ≤ Json.maxNumber := Nat.le_trans hlevel (by decide)
    simp only [List.forall_mem_cons, List.not_mem_nil, false_imp_iff, implies_true, and_true]
    exact ⟨⟨_, _, rfl, fits_anyText _⟩, _, _, rfl, Fits.number hlevel hexact⟩
  · refine bind_field? rfl rfl ?_
    refine bind_field? rfl rfl ?_
    rw [UInt8.ofNat_toNat]
    rfl

/-- Jobs fit their shape. -/
theorem Experience.fitted : Fitted Experience := by
  refine fitted_of_write rfl (fun _ => rfl) (fun _ => by simp) (fun entry => ?_) (fun _ => rfl)
    fun entry => ?_
  · simp only [List.forall_mem_cons, List.not_mem_nil, false_imp_iff, implies_true, and_true]
    exact ⟨⟨_, _, rfl, fits_anyText _⟩, ⟨_, _, rfl, fits_anyText _⟩,
      ⟨_, _, rfl, fits_optionalText _⟩, _, _, rfl, fits_writeList _⟩
  · refine bind_field? rfl rfl ?_
    refine bind_field? rfl rfl ?_
    refine bind_field? rfl (optional?_text _) ?_
    exact bind_field? rfl (readList?_writeList _) rfl

/-- Degrees fit their shape. -/
theorem Education.fitted : Fitted Education := by
  refine fitted_of_write rfl (fun _ => rfl) (fun _ => by simp) (fun entry => ?_) (fun _ => rfl)
    fun entry => ?_
  · simp only [List.forall_mem_cons, List.not_mem_nil, false_imp_iff, implies_true, and_true]
    exact ⟨⟨_, _, rfl, fits_anyText _⟩, ⟨_, _, rfl, fits_anyText _⟩,
      ⟨_, _, rfl, fits_optionalText _⟩, _, _, rfl, fits_writeList _⟩
  · refine bind_field? rfl rfl ?_
    refine bind_field? rfl rfl ?_
    refine bind_field? rfl (optional?_text _) ?_
    exact bind_field? rfl (readList?_writeList _) rfl

/-- Achievements fit their shape. -/
theorem Achievement.fitted : Fitted Achievement := by
  refine fitted_of_write rfl (fun _ => rfl) (fun _ => by simp) (fun entry => ?_) (fun _ => rfl)
    fun entry => ?_
  · simp only [List.forall_mem_cons, List.not_mem_nil, false_imp_iff, implies_true, and_true]
    exact ⟨⟨_, _, rfl, fits_anyText _⟩, ⟨_, _, rfl, fits_optionalText _⟩,
      _, _, rfl, fits_writeList _⟩
  · refine bind_field? rfl rfl ?_
    refine bind_field? rfl (optional?_text _) ?_
    exact bind_field? rfl (readList?_writeList _) rfl

/-- Slides fit their shape. -/
theorem HeroSlide.fitted : Fitted HeroSlide := by
  refine fitted_of_write rfl (fun _ => rfl) (fun _ => by simp) (fun slide => ?_) (fun _ => rfl)
    fun slide => ?_
  · simp only [List.forall_mem_cons, List.not_mem_nil, false_imp_iff, implies_true, and_true]
    exact ⟨⟨_, _, rfl, fits_texts _⟩, ⟨_, _, rfl, fits_anyText _⟩, ⟨_, _, rfl, fits_anyText _⟩,
      ⟨_, _, rfl, fits_anyText _⟩, ⟨_, _, rfl, fits_anyText _⟩, _, _, rfl, Fits.flag _⟩
  · refine bind_field? rfl (Value.listOf?_texts _) ?_
    refine bind_field? rfl rfl ?_
    refine bind_field? rfl rfl ?_
    refine bind_field? rfl rfl ?_
    refine bind_field? rfl rfl ?_
    exact bind_field? rfl rfl rfl

/-- Profiles fit their shape. -/
theorem Profile.fitted : Fitted Profile := by
  obtain ⟨slides, hslides⟩ := HeroSlide.fitted.list
  refine fitted_of_entries
    (fun profile =>
      [.same "name" (.text profile.name), .same "site_url" (.text profile.siteUrl),
        .same "github" (.text profile.github), .same "resume" (.text profile.resume),
        .same "legacy_blog" (.text profile.legacyBlog),
        ⟨"slides", Record.write profile.slides, slides profile.slides⟩])
    _ rfl (fun _ => rfl) (fun _ => by simp [Entry.same]) (fun profile => ?_) (fun _ => rfl)
    fun profile => ?_
  · simp only [List.forall_mem_cons, List.not_mem_nil, false_imp_iff, implies_true, and_true]
    exact ⟨⟨_, _, rfl, fits_anyText _⟩, ⟨_, _, rfl, fits_anyText _⟩, ⟨_, _, rfl, fits_anyText _⟩,
      ⟨_, _, rfl, fits_anyText _⟩, ⟨_, _, rfl, fits_anyText _⟩, _, _, rfl, (hslides _).1⟩
  · refine bind_field? rfl rfl ?_
    refine bind_field? rfl rfl ?_
    refine bind_field? rfl rfl ?_
    refine bind_field? rfl rfl ?_
    refine bind_field? rfl rfl ?_
    exact bind_field? rfl (hslides _).2 rfl

/-- What is computed of a record is computed of what its bytes are read as. -/
theorem parse_map_of_lawful {α β : Type} [Record α] (h : Lawful α) (f : α → β) (a : α) :
    (parse (Text.symbols (textBytes (print a)))).map f = .ok (f a) := by
  rw [h.survivesBytes.parse_bytes]
  rfl

/-- Every record of the content files survives being kept as bytes, and so does a list of skills. A
section of the bio that says nothing about being hidden does not become one that says no, so the
same sections are hidden and the same fragments shown. -/
theorem content_survives_json :
    (SurvivesBytes Profile ∧ SurvivesBytes HeroSlide ∧ SurvivesBytes About ∧
      SurvivesBytes BioSection ∧ SurvivesBytes TechGroup ∧ SurvivesBytes Skill ∧
      SurvivesBytes (List Skill) ∧ SurvivesBytes Experience ∧ SurvivesBytes Education ∧
      SurvivesBytes Achievement) ∧
    (∀ (bio : BioSection) (flag : Bool), print { bio with excluded := none } ≠
      print { bio with excluded := some flag }) ∧
    (∀ bio : BioSection,
      (parse (Text.symbols (textBytes (print bio)))).map BioSection.excluded = .ok bio.excluded ∧
      (parse (Text.symbols (textBytes (print bio)))).map BioSection.isExcluded =
        .ok bio.isExcluded) ∧
    ∀ about : About,
      (parse (Text.symbols (textBytes (print about)))).map (fun found : About =>
        visibleFragments found.sections) = .ok (visibleFragments about.sections) := by
  refine ⟨⟨Profile.fitted.lawful.survivesBytes, HeroSlide.fitted.lawful.survivesBytes,
    About.fitted.lawful.survivesBytes, BioSection.fitted.lawful.survivesBytes,
    TechGroup.fitted.lawful.survivesBytes, Skill.fitted.lawful.survivesBytes,
    Skill.fitted.list.lawful.survivesBytes, Experience.fitted.lawful.survivesBytes,
    Education.fitted.lawful.survivesBytes, Achievement.fitted.lawful.survivesBytes⟩,
    fun bio flag hsame => ?_, fun bio => ⟨?_, ?_⟩, fun about => ?_⟩
  · have hflag := congrArg BioSection.excluded
      (Record.print_injective BioSection.fitted.lawful hsame)
    cases hflag
  · exact parse_map_of_lawful BioSection.fitted.lawful _ bio
  · exact parse_map_of_lawful BioSection.fitted.lawful _ bio
  · exact parse_map_of_lawful About.fitted.lawful _ about

end Folio.Content
