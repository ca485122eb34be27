import Folio.Proofs.Blog.Authored
import Folio.Proofs.Blog.Source
import Folio.Proofs.Calendar.LocalTime
import Mathlib.Data.List.Nodup

/-!
# Front matter arrives as it was meant

Authored front matter arrives unchanged, whatever the texts look like and whatever the body holds:
every text is the one between the quotes, the tags stay in their order, and the date is the instant
at which its place shows it. Every field is found under its name, so the order of the fields does
not matter.
-/

namespace Folio.Blog

open Folio.Calendar (ClockTime Instant)
open Folio.Text (endLines joinLines lines)
open Folio.Yaml (Entry Value Written isQuotable)

namespace Authored

variable {authored : Authored} (hsound : authored.IsSound)

/-- The value of a field is found under its name, wherever the field stands. -/
theorem field?_entries (authored : Authored) {order : List Field} {field : Field}
    (hmem : field ∈ order) (margin : Nat) :
    FrontMatter.field? ((order.filterMap (authored.entryOf? margin)).map fun entry =>
      (.text entry.key, entry.written.value)) field.name =
        (authored.entryOf? margin field).map fun entry => entry.written.value := by
  let named (other : Field) : Bool :=
    (authored.entryOf? margin other).any fun entry => decide (entry.key = field.name.toList)
  have hnamed {other : Field} (h : named other = true) : other = field := by
    cases hentry : authored.entryOf? margin other with
    | none => simp [named, hentry] at h
    | some entry =>
      rw [← Field.name_inj, ← key_of_entryOf? hentry]
      simpa [named, hentry] using h
  have hfind : FrontMatter.field? ((order.filterMap (authored.entryOf? margin)).map fun entry =>
      (.text entry.key, entry.written.value)) field.name =
        ((order.find? named).bind (authored.entryOf? margin)).map fun entry =>
          entry.written.value := by
    rw [FrontMatter.field?, List.find?_map, Option.map_map, ← List.find?_filterMap]
    rfl
  rw [hfind]
  cases hfound : order.find? named with
  | none =>
    have hmissing := List.find?_eq_none.mp hfound field hmem
    cases hentry : authored.entryOf? margin field with
    | none => rfl
    | some entry => simp [named, hentry, key_of_entryOf? hentry] at hmissing
  | some other => rw [hnamed (List.find?_some hfound), Option.bind_some]

include hsound in
/-- The date is a text. -/
theorem value_dateWritten :
    authored.dateWritten.value = .text (authored.date.text authored.spelling) := by
  have hplain : authored.dateWritten.value =
      Value.ofPlain (authored.date.text authored.spelling) := by
    rw [dateWritten]
    split
    case isTrue hspace => simp [Written.value, ClockTime.text, hspace]
    case isFalse => simp [Written.value]
  obtain ⟨a, b, digits, rest, htext, ha, hb, hdigits⟩ := ClockTime.exists_dateText_eq hsound.date
  have hall : authored.date.text authored.spelling = a :: b :: (digits ++ '-' ::
      (rest ++ authored.spelling.separator :: authored.date.clockText authored.spelling.zone)) := by
    simp [ClockTime.text, htext]
  rw [hplain, hall, Value.ofPlain_digits_hyphen ha hb hdigits]

/-- Quoted items are texts. -/
theorem texts?_items (tags : List String) :
    FrontMatter.texts? (.list ((tags.map String.toList).map .text)) = some tags := by
  rw [FrontMatter.texts?]
  induction tags with
  | nil => rfl
  | cons tag tags ih =>
    rw [List.map_cons, List.map_cons, List.mapM_cons, ih]
    simp [FrontMatter.text?]

include hsound in
/-- The entries say what was meant, if the date has an instant. -/
theorem ofValue?_entries {order : List Field} (horder : ∀ field, field ∈ order) (margin : Nat) :
    FrontMatter.ofValue? (.map ((order.filterMap (authored.entryOf? margin)).map fun entry =>
      (.text entry.key, entry.written.value))) =
        (authored.date.instant? authored.spelling.zone).map authored.front := by
  have hfield (field : Field) := field?_entries authored (horder field) margin
  generalize (order.filterMap (authored.entryOf? margin)).map
    (fun entry => (Value.text entry.key, entry.written.value)) = entries at hfield
  have htitle : FrontMatter.field? entries "title" = some (.text authored.title.toList) :=
    hfield .title
  have hdescription : FrontMatter.field? entries "description" =
      some (.text authored.description.toList) := hfield .description
  have hauthor : FrontMatter.field? entries "author" = some (.text authored.author.toList) :=
    hfield .author
  have hdate : FrontMatter.field? entries "date" =
      some (.text (authored.date.text authored.spelling)) := by
    rw [← value_dateWritten hsound]
    exact hfield .date
  have htags : FrontMatter.tags? (FrontMatter.field? entries "tags") = some authored.tags := by
    have htags := hfield .tags
    rw [Field.name, entryOf?] at htags
    rw [htags]
    cases authored.tags with
    | nil => rfl
    | cons tag tags => exact texts?_items (tag :: tags)
  have hdraft : FrontMatter.draft? (FrontMatter.field? entries "draft") = some authored.draft := by
    have hdraft := hfield .draft
    rw [Field.name, entryOf?] at hdraft
    rw [hdraft]
    cases authored.draft <;> rfl
  have hinstant := ClockTime.read?_text hsound.date hsound.spelling
  rw [FrontMatter.ofValue?, FrontMatter.ofFields?_eq, htitle, hdescription, hauthor, hdate, htags,
    hdraft]
  simp only [Option.bind_some, FrontMatter.text?, String.ofList_toList, FrontMatter.instant?,
    hinstant]
  exact (Option.map_eq_bind).symm

/-- Each line with a line feed in front of it is what each entry is with one in front of it. -/
theorem flatMap_lines_eq (authored : Authored) (order : List Field) (margin : Nat) :
    ((order.flatMap (authored.lines margin)).map String.toList).flatMap (fun line => '\n' :: line) =
      (order.filterMap (authored.entryOf? margin)).flatMap fun entry => '\n' :: entry.text := by
  rw [List.flatMap_map, List.flatMap_assoc, List.filterMap_eq_flatMap_toList, List.flatMap_assoc]
  simp only [flatMap_lines]

/-- Every field has its place, so there is an entry. -/
theorem exists_entries_eq_cons (authored : Authored) {order : List Field}
    (horder : order.Perm Field.all) (margin : Nat) :
    ∃ entry more, order.filterMap (authored.entryOf? margin) = entry :: more := by
  have htitle : Field.title ∈ order := horder.mem_iff.mpr List.mem_cons_self
  exact List.exists_cons_of_ne_nil (List.ne_nil_of_mem (List.mem_filterMap.mpr ⟨_, htitle, rfl⟩))

/-- The keys of the entries differ. -/
theorem nodup_keys (authored : Authored) {order : List Field} (horder : order.Perm Field.all)
    (margin : Nat) : ((order.filterMap (authored.entryOf? margin)).map Entry.key).Nodup := by
  rw [List.map_filterMap]
  refine List.Nodup.filterMap ?_ (horder.nodup_iff.mpr (by decide))
  intro field other key hfield hother
  obtain ⟨entry, hentry, rfl⟩ := Option.map_eq_some_iff.mp hfield
  obtain ⟨second, hsecond, hkey⟩ := Option.map_eq_some_iff.mp hother
  rw [key_of_entryOf? hentry, key_of_entryOf? hsecond] at hkey
  exact (Field.name_inj.mp hkey).symm

/-- The lines of a source are fences, those of the fields between them, and those of the body. -/
theorem lines_source {order : List Field} {margin : Nat}
    (hlines : ∀ line ∈ order.flatMap (authored.lines margin), IsMatterLine line.toList)
    (body : String) :
    Text.lines (authored.source order margin body).toList =
      "---".toList :: ((order.flatMap (authored.lines margin)).map String.toList ++
        "---".toList :: Text.lines body.toList) := by
  have hwhole : (authored.source order margin body).toList =
      endLines ("---".toList :: ((order.flatMap (authored.lines margin)).map String.toList ++
        ["---".toList])) ++ body.toList := by
    simp [source, endLines, String.toList_join, List.flatMap_map]
  rw [hwhole, Text.lines_endLines_append]
  · simp
  · intro line hline
    rcases List.mem_cons.mp hline with rfl | hline
    · decide
    · rcases List.mem_append.mp hline with hline | hline
      · obtain ⟨line, hmem, rfl⟩ := List.mem_map.mp hline
        exact Text.isLine_of_isVisible (hlines line hmem).visible
      · rw [List.mem_singleton.mp hline]
        decide

include hsound in
/-- Authored front matter is read as it was meant, and the body behind it as its lines. -/
theorem read?_source {order : List Field} (horder : order.Perm Field.all) (margin : Nat)
    (body : String) :
    FrontMatter.read? (authored.source order margin body).toList =
      (authored.date.instant? authored.spelling.zone).map fun instant =>
        (authored.front instant, joinLines (Text.lines body.toList)) := by
  have hlines : ∀ line ∈ order.flatMap (authored.lines margin), IsMatterLine line.toList := by
    intro line hline
    obtain ⟨field, -, hfield⟩ := List.mem_flatMap.mp hline
    exact isMatterLine_of_mem hsound hfield
  have hfences : ∀ line ∈ (order.flatMap (authored.lines margin)).map String.toList,
      IsMatterLine line := List.forall_mem_map.mpr hlines
  obtain ⟨entry, more, hentries⟩ := exists_entries_eq_cons authored horder margin
  have hsounds : ∀ e ∈ entry :: more, e.IsSound := by
    intro e he
    obtain ⟨field, -, hfield⟩ := List.mem_filterMap.mp (hentries ▸ he)
    exact isSound_of_entryOf? hsound hfield
  have hkeys := nodup_keys authored horder margin
  have hall (field : Field) : field ∈ order :=
    horder.mem_iff.mpr (by cases field <;> decide)
  have hvalue := ofValue?_entries hsound hall margin
  have hjoined := flatMap_lines_eq authored order margin
  rw [hentries] at hkeys hvalue hjoined
  rw [Entry.flatMap_text] at hjoined
  obtain ⟨d, rest, hd, -, hspace⟩ :=
    Entry.exists_lines_eq_cons (hsounds entry List.mem_cons_self).word more
  obtain ⟨hjoin, htrim, hend⟩ := IsMatterLine.joinLines_eq hfences (hd ▸ hjoined) hspace
  rw [← hd] at hjoin htrim hend
  rw [FrontMatter.read?_of_lines (lines_source hlines body) (by decide)
    (fun line hline => (hfences line hline).isFence_eq_false) (by decide), FrontMatter.ofLines?,
    hjoin, htrim, if_neg (by simp [hd]), Value.ofText?_lines hsounds hend hkeys, Option.bind_some,
    hvalue, Option.map_map]
  rfl

end Authored

/-- Authored front matter arrives unchanged. With the fields in any order and with any body, the
texts are those that stand in quotes, the tags stay in their order, the flag is the one that was
written, and the date is the instant at which UTC shows it. A source that is no draft is a post with
that front matter, and a draft is not found. -/
theorem authored_arrives {authored : Authored} (hsound : authored.IsSound)
    (hzone : authored.spelling.zone = .utc) {order : List Field} (horder : order.Perm Field.all)
    (margin : Nat) (slug body : String) :
    ∃ instant : Instant, instant.Shows authored.date ∧
      readSource slug (authored.source order margin body) =
        .ok (authored.front instant, joinLines (lines body.toList)) ∧
      Post.read slug (authored.source order margin body) =
        if authored.draft then .error (.notFound slug)
        else
          .ok ⟨(authored.front instant).summary slug,
            renderBody (joinLines (lines body.toList))⟩ := by
  obtain ⟨instant, hinstant, hshows⟩ := ClockTime.exists_instant hsound.date
  have hread := Authored.read?_source hsound horder margin body
  rw [hzone, hinstant, Option.map_some] at hread
  exact ⟨instant, hshows, readSource_of_some hread, Post.read_of_some hread⟩

/-- Front matter whose texts look like syntax, with a leap second in the night of a leap day. -/
def hostile : Authored where
  title := " - key: [value] # no comment"
  description := "---"
  author := ""
  date := ⟨⟨2024, 2, 29⟩, 23, 59, 60, []⟩
  spelling := ⟨'T', .utc⟩
  tags := ["true", "", "*a, &b: 'c'"]
  draft := false

/-- Texts that look like syntax arrive, with all fields in the reverse of their order. -/
theorem authored_arrives_hostile :
    hostile.IsSound ∧ hostile.spelling.zone = .utc ∧ Field.all.reverse.Perm Field.all ∧
      ∃ instant : Instant, instant.Shows hostile.date ∧
        readSource "post" (hostile.source Field.all.reverse 2 "---\ndraft: true\n") =
          .ok (hostile.front instant, joinLines (lines "---\ndraft: true\n".toList)) ∧
        Post.read "post" (hostile.source Field.all.reverse 2 "---\ndraft: true\n") =
          if hostile.draft then .error (.notFound "post")
          else .ok ⟨(hostile.front instant).summary "post",
            renderBody (joinLines (lines "---\ndraft: true\n".toList))⟩ := by
  have hquotable {text : String} (h : text.toList.all isQuotable = true) :
      ∀ c ∈ text.toList, isQuotable c = true := List.all_eq_true.mp h
  have htags : hostile.tags.all (fun tag => tag.toList.all isQuotable) = true := by decide
  have hsound : hostile.IsSound :=
    ⟨hquotable (by decide), hquotable (by decide), hquotable (by decide),
      fun tag htag => hquotable (List.all_eq_true.mp htags tag htag),
      ⟨⟨by decide, by decide, by decide, by decide⟩, by decide, by decide, by decide, by decide,
        by decide, fun c hc => absurd hc List.not_mem_nil⟩, Or.inl rfl, trivial⟩
  have horder : Field.all.reverse.Perm Field.all := List.reverse_perm _
  exact ⟨hsound, rfl, horder,
    authored_arrives hsound rfl horder 2 "post" "---\ndraft: true\n"⟩

end Folio.Blog
