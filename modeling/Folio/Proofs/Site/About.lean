import Folio.Content.File
import Folio.Proofs.Content.Bio
import Folio.Proofs.Site.BlogMarkup
import Folio.Site.Home

/-!
# The about section of the front page

The about section shows the fragments of the sections of the bio that are not hidden, and for every
group of icons the badges that are registered under its keys. A hidden section leaves no trace: with
whatever it says, with or without it, the page is the same. A badge shows in what is written for it:
its title as a hint and as a text, and its glyph as the class of an icon.
-/

namespace Folio.Site

open Folio.Content (About BioSection FileFault HiddenChange InFile TechGroup TrustedHtml
  visibleFragments)
open Folio.Json (Fitting Gap Member Record Spells Value known objectText)
open Folio.Json.Record (fieldsOf)
open Folio.Text (Symbol)

/-- Each badge is found under its own key, and under no other one. -/
theorem Badge.ofKey?_eq_some_iff {key : String} {badge : Badge} :
    Badge.ofKey? key = some badge ↔ badge ∈ Badge.all ∧ badge.key = key := by
  constructor
  · intro h
    have hkey := List.find?_some h
    exact ⟨List.mem_of_find?_eq_some h, by simpa using hkey⟩
  · rintro ⟨hmem, rfl⟩
    have hown : ∀ badge ∈ Badge.all, Badge.ofKey? badge.key = some badge := by decide
    exact hown badge hmem

/-- A key is unknown if it is that of no badge. -/
theorem Badge.ofKey?_eq_none_iff {key : String} :
    Badge.ofKey? key = none ↔ key ∉ Badge.all.map Badge.key := by
  rw [Badge.ofKey?, List.find?_eq_none]
  simp only [decide_eq_true_eq, List.mem_map, not_exists, not_and]

/-- The values of an attribute of the elements of some name. -/
def Token.values (name key : String) : Token → List String
  | .opened tag attributes =>
    if tag = name.toList then
      attributes.filterMap fun (written, value) =>
        if written = key.toList then some (String.ofList (Text.unescape value)) else none
    else []
  | _ => []

/-- The values that markup gives to an attribute of the elements of some name. -/
def valuesOf (name key : String) (s : List Char) : List String :=
  (tokens s).flatMap (Token.values name key)

mutual

/-- The trusted markup within a part. -/
def Html.markups : Html → List String
  | .element _ _ children => markupsAll children
  | .void _ _ => []
  | .text _ => []
  | .markup content => [content]

/-- The trusted markup within parts one after the other. -/
def Html.markupsAll : List Html → List String
  | [] => []
  | part :: rest => part.markups ++ markupsAll rest

end

/-- A row shows the badges that are registered under the keys of a group, in the order of the keys
and as often as they occur, and skips the keys that are unknown. What is written for it is the
heading and the title of each badge, with the same title as a hint, behind an icon of its glyph. -/
structure ShowsBadges (group : TechGroup) (badges : List Badge) : Prop where
  view : techView group = .element "div" []
    (.div "heading-meta" [.text group.heading] :: badges.map Badge.view)
  registered : ∀ badge ∈ badges, badge ∈ Badge.all
  keys : badges.map Badge.key = group.icons.filter fun key => key ∈ Badge.all.map Badge.key
  texts : textsOf (techView group).write = shownText group.heading :: badges.map Badge.title
  titles : valuesOf "span" "title" (techView group).write = badges.map Badge.title
  glyphs : valuesOf "i" "class" (techView group).write = badges.map Badge.glyph

section

variable (name key : String)

@[simp] theorem values_closed (closed : List Char) : (Token.closed closed).values name key = [] :=
  rfl

@[simp] theorem values_text (content : List Char) : (Token.text content).values name key = [] :=
  rfl

/-- The values of an attribute of an element. -/
@[simp] theorem values_opened (tag : String) (attributes : List (String × String)) :
    (Token.opened tag.toList (writtenAttributes attributes)).values name key =
      if tag = name then
        attributes.filterMap fun entry => if entry.1 = key then some entry.2 else none
      else [] := by
  simp only [Token.values, String.toList_inj, writtenAttributes, List.filterMap_map]
  congr 2
  funext entry
  simp [Text.readable_attributeEscapes.unescape_escapeWith, String.toList_inj,
    -String.reduceToList]

end

/-- A badge shows its title. -/
theorem filterMap_text?_badge (badge : Badge) :
    badge.view.tokens.filterMap Token.text? = [shownText badge.title] := by
  simp [Badge.view, Html.span, Html.tokens, Html.tokensAll, List.filterMap_cons]

/-- A badge has its title as a hint. -/
theorem titles_badge (badge : Badge) :
    badge.view.tokens.flatMap (Token.values "span" "title") = [badge.title] := by
  simp [Badge.view, Html.span, Html.tokens, Html.tokensAll, -String.reduceToList]

/-- A badge has an icon of its glyph. -/
theorem glyphs_badge (badge : Badge) :
    badge.view.tokens.flatMap (Token.values "i" "class") = [badge.glyph] := by
  simp [Badge.view, Html.span, Html.tokens, Html.tokensAll, -String.reduceToList]

/-- The badges that are found have the keys that are known. -/
theorem map_key_filterMap_ofKey? (keys : List String) :
    (keys.filterMap Badge.ofKey?).map Badge.key =
      keys.filter fun key => key ∈ Badge.all.map Badge.key := by
  induction keys with
  | nil => rfl
  | cons key keys ih =>
    cases hkey : Badge.ofKey? key with
    | none =>
      have hunknown := Badge.ofKey?_eq_none_iff.mp hkey
      rw [List.filterMap_cons_none hkey, ih, List.filter_cons_of_neg (by simpa using hunknown)]
    | some badge =>
      obtain ⟨hmem, rfl⟩ := Badge.ofKey?_eq_some_iff.mp hkey
      have hknown : badge.key ∈ Badge.all.map Badge.key := List.mem_map_of_mem hmem
      rw [List.filterMap_cons_some hkey, List.map_cons, ih,
        List.filter_cons_of_pos (by simpa using hknown)]

/-- A heading and badges in a row. -/
def badgeRow (heading : String) (badges : List Badge) : Html :=
  .element "div" [] (.div "heading-meta" [.text heading] :: badges.map Badge.view)

/-- What is written for a row is read as its elements. -/
theorem tokens_badgeRow (heading : String) (badges : List Badge) :
    tokens (badgeRow heading badges).write = (badgeRow heading badges).tokens := by
  have hbadges : Html.allInner (badges.map Badge.view) = true :=
    allInner_map (fun _ => by
      simp +decide [Badge.view, Html.span, Html.isInner, Html.allInner]) badges
  have hspaced : Html.allSpaced (badges.map Badge.view) = true :=
    allSpaced_map (fun _ => rfl) (fun _ => rfl) badges
  have htokens : tokens (Html.writeAll [badgeRow heading badges]) =
      Html.tokensAll [badgeRow heading badges] := by
    refine tokens_writeAll ?_ ?_
    · simp +decide [badgeRow, Html.div, Html.isInner, Html.allInner, hbadges]
    · simp [badgeRow, Html.div, Html.isSpaced, Html.allSpaced, Html.isText, startsText, hspaced]
  simpa [Html.writeAll, Html.tokensAll] using htokens

/-- A row shows its heading and the titles of its badges. -/
theorem textsOf_badgeRow (heading : String) (badges : List Badge) :
    textsOf (badgeRow heading badges).write =
      shownText heading :: badges.map fun badge => shownText badge.title := by
  rw [textsOf, tokens_badgeRow]
  simp [badgeRow, Html.div, Html.tokens, Html.tokensAll, List.filterMap_cons,
    List.filterMap_append, tokensAll_map, List.filterMap_flatMap, filterMap_text?_badge,
    ← List.map_eq_flatMap]

/-- The hints of a row are the titles of its badges. -/
theorem titles_badgeRow (heading : String) (badges : List Badge) :
    valuesOf "span" "title" (badgeRow heading badges).write = badges.map Badge.title := by
  rw [valuesOf, tokens_badgeRow]
  simp [badgeRow, Html.div, Html.tokens, Html.tokensAll, tokensAll_map, List.flatMap_assoc,
    titles_badge, ← List.map_eq_flatMap, -String.reduceToList]

/-- The icons of a row are the glyphs of its badges. -/
theorem glyphs_badgeRow (heading : String) (badges : List Badge) :
    (badgeRow heading badges).tokens.flatMap (Token.values "i" "class") =
      badges.map Badge.glyph := by
  simp [badgeRow, Html.div, Html.tokens, Html.tokensAll, tokensAll_map, List.flatMap_assoc,
    glyphs_badge, ← List.map_eq_flatMap, -String.reduceToList]

/-- The badges of a group. -/
def groupBadges (group : TechGroup) : List Badge := group.icons.filterMap Badge.ofKey?

/-- The badges of a group are registered. -/
theorem registered_of_mem_groupBadges {group : TechGroup} {badge : Badge}
    (h : badge ∈ groupBadges group) : badge ∈ Badge.all := by
  obtain ⟨key, -, hkey⟩ := List.mem_filterMap.mp h
  exact (Badge.ofKey?_eq_some_iff.mp hkey).1

/-- A row shows the badges of its group. -/
theorem showsBadges (group : TechGroup) : ShowsBadges group (groupBadges group) where
  view := rfl
  registered _ := registered_of_mem_groupBadges
  keys := map_key_filterMap_ofKey? group.icons
  texts := by
    have htitle : ∀ badge ∈ Badge.all, shownText badge.title = badge.title := by decide
    refine (textsOf_badgeRow group.heading (groupBadges group)).trans (congrArg _ ?_)
    exact List.map_congr_left fun badge hbadge =>
      htitle badge (registered_of_mem_groupBadges hbadge)
  titles := titles_badgeRow group.heading (groupBadges group)
  glyphs := by
    have hglyphs := glyphs_badgeRow group.heading (groupBadges group)
    rwa [← tokens_badgeRow] at hglyphs

/-- The trusted markup within parts that are made in one way. -/
theorem markupsAll_map {α : Type} (f : α → Html) (items : List α) :
    Html.markupsAll (items.map f) = items.flatMap fun a => (f a).markups := by
  induction items with
  | nil => rfl
  | cons a items ih => rw [List.map_cons, Html.markupsAll, ih, List.flatMap_cons]

/-- A row has no trusted markup. -/
theorem markups_badgeRow (heading : String) (badges : List Badge) :
    (badgeRow heading badges).markups = [] := by
  have hbadge (badge : Badge) : badge.view.markups = [] := rfl
  simp [badgeRow, Html.div, Html.markups, Html.markupsAll, markupsAll_map, hbadge]

/-- The trusted markup of the about section is that of the visible fragments, in order. -/
theorem markups_aboutView (about : About) :
    (aboutView about).markups = (visibleFragments about.sections).map TrustedHtml.text := by
  have hfragment (fragment : TrustedHtml) :
      (fragmentView "about" fragment).markups = [fragment.text] := rfl
  have hrow (group : TechGroup) : (techView group).markups = [] :=
    markups_badgeRow group.heading (groupBadges group)
  simp [aboutView, Section.frame, Html.div, Html.span, Html.paragraph, Html.markups,
    Html.markupsAll, markupsAll_map, hfragment, hrow, ← List.map_eq_flatMap]

/-- The icons of the about section are those of its rows, in order. -/
theorem glyphs_aboutView (about : About) :
    (aboutView about).tokens.flatMap (Token.values "i" "class") =
      (about.techStack.map groupBadges).flatten.map Badge.glyph := by
  have hfragments (fragments : List TrustedHtml) :
      (Html.tokensAll (fragments.map (fragmentView "about"))).flatMap (Token.values "i" "class") =
        [] := by
    induction fragments with
    | nil => rfl
    | cons fragment fragments ih =>
      rw [List.map_cons, Html.tokensAll, List.flatMap_append, ih]
      simp [fragmentView, Html.tokens, Html.tokensAll, -String.reduceToList]
  have hrow (group : TechGroup) :
      (techView group).tokens.flatMap (Token.values "i" "class") =
        (groupBadges group).map Badge.glyph :=
    glyphs_badgeRow group.heading (groupBadges group)
  simp [aboutView, Section.frame, Html.div, Html.span, Html.paragraph, Html.tokens,
    Html.tokensAll, hfragments, tokensAll_map techView, List.flatMap_assoc, hrow,
    ← List.flatMap_def, List.map_flatMap, -String.reduceToList]

/-- The rows show the badges of their groups, one for one. -/
theorem forall₂_showsBadges (groups : List TechGroup) :
    List.Forall₂ ShowsBadges groups (groups.map groupBadges) :=
  List.forall₂_map_right_iff.mpr (List.forall₂_same.mpr fun group _ => showsBadges group)

/-- The about section shows of the bio what is visible. -/
theorem aboutView_congr {about : About} {sections : List BioSection}
    (h : visibleFragments sections = visibleFragments about.sections) :
    aboutView { about with sections } = aboutView about := by
  rw [aboutView, aboutView, h]

/-- A document is read from a file if it is read. -/
theorem parse_of_inFile {raw : List Symbol} {about : About}
    (h : InFile.parse raw = .ok about) : Record.parse raw = .ok about := by
  rw [InFile.parse, Content.parseFile] at h
  cases hparse : (Record.parse raw : Except Json.Fault About) with
  | error fault =>
    rw [hparse] at h
    cases h
  | ok found =>
    rw [hparse] at h
    exact congrArg Except.ok (Except.ok.inj h)

/-- In what is shown of a document, hidden sections leave no trace and the others lose nothing. The
sections and the groups of the document are read one for one and in order, a flag that is missing as
one that is null. What is visible are the fragments of those sections, in order, whose flag says
that they are not hidden, or that have no flag and no `side` anywhere in their label. Whatever is
changed in what is hidden, the same is visible and the page is the same; and what is visible of two
lists of sections comes one after the other. All markup on the page is what is visible. A badge is
found under its own key only, each row shows the badges of its keys, and no other icon is shown. -/
structure LeavesNoTrace (raw : List Symbol) (about : About) : Prop where
  document : ∃ document, (Record.shape About).parse raw = .ok document ∧ about.IsRead document
  missing : ∀ (members : List Member) (gap : Gap) (item : Value),
    Fitting (fieldsOf BioSection) members →
      Spells (Record.shape BioSection) item (objectText (members.map Member.toLabelled) gap) →
        item.entry? "excluded" =
          ((known (fieldsOf BioSection) members).lookup "excluded").or (some .null)
  visible : visibleFragments about.sections =
    (about.sections.filter fun bio => bio.IsShown).flatMap BioSection.description
  changes : ∀ sections, Relation.ReflTransGen HiddenChange about.sections sections →
    visibleFragments sections = visibleFragments about.sections ∧
      aboutView { about with sections } = aboutView about
  append : ∀ sections others, visibleFragments (sections ++ others) =
    visibleFragments sections ++ visibleFragments others
  registry : ∀ key badge, Badge.ofKey? key = some badge ↔ badge ∈ Badge.all ∧ badge.key = key
  shown : (aboutView about).markups = (visibleFragments about.sections).map TrustedHtml.text
  rows : ∃ rows, List.Forall₂ ShowsBadges about.techStack rows ∧
    (aboutView about).tokens.flatMap (Token.values "i" "class") = rows.flatten.map Badge.glyph

/-- In every document that is read as an about section, hidden sections leave no trace and visible
ones lose nothing. -/
theorem hidden_sections_leave_no_trace {raw : List Symbol} {about : About}
    (h : (InFile.parse raw : Except FileFault About) = .ok about) : LeavesNoTrace raw about := by
  obtain ⟨document, hdocument, hread⟩ := Record.exists_value_of_parse (parse_of_inFile h)
  refine
    { document := ⟨document, hdocument, Content.About.isRead_of_read? hread⟩
      missing := fun _ _ _ hfits hspells => BioSection.excluded_of_spells hfits hspells
      visible := Content.visibleFragments_eq about.sections
      changes := fun sections hchanges => ?_
      append := Content.visibleFragments_append
      registry := fun _ _ => Badge.ofKey?_eq_some_iff
      shown := markups_aboutView about
      rows := ⟨about.techStack.map groupBadges, forall₂_showsBadges about.techStack,
        glyphs_aboutView about⟩ }
  have hsame := Content.visibleFragments_of_hiddenChanges hchanges
  exact ⟨hsame, aboutView_congr hsame⟩

/-- An about section with a hidden section that has no flag, a section that is shown in spite of its
label, and a group with a key that is unknown and one that comes twice. -/
def smallAbout : About :=
  { sections := [⟨"inside", [⟨"a"⟩], none⟩, ⟨"side", [⟨"b"⟩, ⟨"c"⟩], some false⟩]
    techStack := [⟨"T", ["git", "?", "git"]⟩] }

/-- A document of that section, in which the missing flag is null. -/
def smallAboutText : String :=
  "\x7b\"About\":[\x7b\"section\":\"inside\",\"description\":[\"a\"],\"excluded\":null\x7d," ++
    "[\"side\",[\"b\",\"c\"],false]],\"TechStack\":[[\"T\",[\"git\",\"?\",\"git\"]]]\x7d"

/-- That document leaves no trace of the hidden section. -/
theorem hidden_sections_leave_no_trace_small :
    (InFile.parse (smallAboutText.toList.map some) : Except FileFault About) = .ok smallAbout ∧
      LeavesNoTrace (smallAboutText.toList.map some) smallAbout := by
  have hparse : (InFile.parse (smallAboutText.toList.map some) : Except FileFault About) =
      .ok smallAbout := by decide +kernel
  exact ⟨hparse, hidden_sections_leave_no_trace hparse⟩

end Folio.Site
