import Folio.Blog.FrontMatter
import Folio.Proofs.Calendar.Clock
import Folio.Proofs.Text.Lines
import Folio.Proofs.Yaml.Nodes
import Folio.Proofs.Yaml.Spelling
import Mathlib.Data.Bool.AllAny

/-!
# Authored front matter

An author writes title, description and name in double quotes, the date as it is, the tags as quoted
items on lines of their own, and the flag of a draft as a word, each behind its key and in any
order. No such line is a fence, whatever the texts look like, and the lines of a field are an entry
of a mapping: a word as its key, and behind it a quoted text, a plain scalar or a sequence.
-/

namespace Folio.Blog

open Folio.Calendar (ClockTime Instant Spelling)
open Folio.Text (isBlank isVisible joinLines trim)
open Folio.Yaml (Entry IsPlainWord Value Written isQuotable isVisible_of_isQuotable)

/-- The fields of front matter. -/
inductive Field where
  | title
  | description
  | author
  | date
  | tags
  | draft
  deriving Repr, DecidableEq

namespace Field

/-- All fields, each once. -/
def all : List Field := [title, description, author, date, tags, draft]

/-- The key of a field. -/
def name : Field → String
  | title => "title"
  | description => "description"
  | author => "author"
  | date => "date"
  | tags => "tags"
  | draft => "draft"

/-- A name is a word. -/
theorem isPlainWord_name (field : Field) : IsPlainWord field.name.toList := by
  cases field <;> exact ⟨⟨_, _, rfl, rfl⟩, List.all_iff_forall_prop.mp (by decide), by decide⟩

/-- A name is short. -/
theorem length_name (field : Field) : field.name.toList.length ≤ 1024 := by
  cases field <;> decide

/-- A name spells no other value. -/
theorem ofPlain_name (field : Field) :
    Value.ofPlain field.name.toList = .text field.name.toList := by
  cases field <;> rfl

/-- Fields with one name are one. -/
theorem name_inj {field other : Field} : field.name.toList = other.name.toList ↔ field = other := by
  cases field <;> cases other <;> decide

end Field

/-- What an author says of a post. -/
structure Authored where
  title : String
  description : String
  author : String
  date : ClockTime
  spelling : Spelling
  tags : List String
  draft : Bool

/-- A line with a key and a text in quotes. -/
def quotedLine (key text : String) : String := key ++ ": \"" ++ text ++ "\""

/-- A line with an item in quotes. -/
def itemLine (margin : Nat) (text : String) : String :=
  String.ofList (List.replicate margin ' ') ++ "- \"" ++ text ++ "\""

namespace Authored

/-- The texts stand for themselves in quotes, and the date is in the calendar. -/
structure IsSound (authored : Authored) : Prop where
  title : ∀ c ∈ authored.title.toList, isQuotable c = true
  description : ∀ c ∈ authored.description.toList, isQuotable c = true
  author : ∀ c ∈ authored.author.toList, isQuotable c = true
  tags : ∀ tag ∈ authored.tags, ∀ c ∈ tag.toList, isQuotable c = true
  date : authored.date.IsValid
  spelling : authored.spelling.IsValid

/-- The lines of a field; without tags their key is left out. -/
def lines (authored : Authored) (margin : Nat) : Field → List String
  | .title => [quotedLine "title" authored.title]
  | .description => [quotedLine "description" authored.description]
  | .author => [quotedLine "author" authored.author]
  | .date => ["date: " ++ String.ofList (authored.date.text authored.spelling)]
  | .tags =>
    if authored.tags.isEmpty then [] else "tags:" :: authored.tags.map (itemLine margin)
  | .draft => [if authored.draft then "draft: true" else "draft: false"]

/-- A source with the fields in an order, with a margin in front of the tags, and with a body. -/
def source (authored : Authored) (order : List Field) (margin : Nat) (body : String) : String :=
  "---\n" ++ String.join ((order.flatMap (authored.lines margin)).map (· ++ "\n")) ++ "---\n" ++
    body

/-- The front matter that was meant. -/
def front (authored : Authored) (instant : Instant) : FrontMatter :=
  { title := authored.title
    description := authored.description
    author := authored.author
    date := instant
    tags := authored.tags
    draft := authored.draft }

end Authored

/-- A line between fences that is no fence: it has visible characters and spaces, a colon or a quote
among them, and it ends with a visible one. -/
structure IsMatterLine (line : List Char) : Prop where
  visible : ∀ c ∈ line, c = ' ' ∨ isVisible c = true
  marked : ':' ∈ line ∨ '"' ∈ line
  ends : ∃ c, line.getLast? = some c ∧ isVisible c = true

/-- A line that ends with a text in quotes. -/
theorem isMatterLine_quoted {start text : List Char}
    (hstart : ∀ c ∈ start, c = ' ' ∨ isVisible c = true)
    (htext : ∀ c ∈ text, isQuotable c = true) : IsMatterLine (start ++ '"' :: (text ++ ['"'])) where
  visible c hc := by
    simp only [List.mem_append, List.mem_cons, List.not_mem_nil, or_false] at hc
    rcases hc with hc | rfl | hc | rfl
    · exact hstart c hc
    · exact Or.inr (by decide)
    · exact isVisible_of_isQuotable (htext c hc)
    · exact Or.inr (by decide)
  marked := Or.inr (by simp)
  ends := ⟨'"', by rw [← List.cons_append, ← List.append_assoc, List.getLast?_concat], by decide⟩

/-- A line that reads differently from a fence is none. -/
theorem IsMatterLine.isFence_eq_false {line : List Char} (h : IsMatterLine line) :
    isFence line = false := by
  have hmark : ∃ c ∈ line, isBlank c = false ∧ c ≠ '-' := by
    rcases h.marked with hc | hc
    · exact ⟨':', hc, by decide, by decide⟩
    · exact ⟨'"', hc, by decide, by decide⟩
  obtain ⟨c, hc, hblank, hdash⟩ := hmark
  have hkept : c ∈ Text.trimEnd line := Text.mem_dropEndWhile hblank hc
  rw [isFence, decide_eq_false_iff_not]
  intro hfence
  rw [hfence] at hkept
  simp [hdash] at hkept

/-- What lines between fences hold: visible characters, spaces and line feeds. -/
theorem IsMatterLine.mem_flatMap {parts : List (List Char)}
    (hparts : ∀ line ∈ parts, IsMatterLine line) {c : Char}
    (hc : c ∈ parts.flatMap fun line => '\n' :: line) :
    c = '\n' ∨ c = ' ' ∨ isVisible c = true := by
  obtain ⟨line, hline, hc⟩ := List.mem_flatMap.mp hc
  exact (List.mem_cons.mp hc).imp id ((hparts line hline).visible c)

/-- The last of lines between fences ends with a visible character. -/
theorem IsMatterLine.getLast?_flatMap {parts : List (List Char)}
    (hparts : ∀ line ∈ parts, IsMatterLine line) {c : Char}
    (hc : c ∈ (parts.flatMap fun line => '\n' :: line).getLast?) : isVisible c = true := by
  induction parts using List.reverseRecOn with
  | nil => cases hc
  | append_singleton parts line =>
    obtain ⟨d, hlast, hd⟩ := (hparts line (by simp)).ends
    have hend : ('\n' :: line).getLast? = some d := by rw [List.getLast?_cons, hlast]; rfl
    rw [List.flatMap_append, List.flatMap_singleton, List.getLast?_append, hend, Option.some_or,
      Option.mem_some_iff] at hc
    exact hc ▸ hd

/-- Lines between fences that begin with text are joined to a text with visible ends. -/
theorem IsMatterLine.joinLines_eq {parts : List (List Char)}
    (hparts : ∀ line ∈ parts, IsMatterLine line) {d : Char} {rest : List Char}
    (hjoined : (parts.flatMap fun line => '\n' :: line) = '\n' :: d :: rest)
    (hd : Yaml.isSpace d = false) :
    joinLines parts = d :: rest ∧ trim (d :: rest) = d :: rest ∧ '\x00' ∉ d :: rest := by
  have hmem {c : Char} (hc : c ∈ d :: rest) : c = '\n' ∨ c = ' ' ∨ isVisible c = true :=
    mem_flatMap hparts (hjoined ▸ List.mem_cons_of_mem _ hc)
  have hspace (c : Char) (hc : Yaml.isSpace c = true) : d ≠ c := by
    rintro rfl
    rw [hd] at hc
    cases hc
  have hfirst : isVisible d = true :=
    ((hmem List.mem_cons_self).resolve_left (hspace '\n' rfl)).resolve_left (hspace ' ' rfl)
  refine ⟨?_, Text.trim_eq_self ?_ ?_, fun hend => ?_⟩
  · rw [joinLines, hjoined, List.dropWhile_cons_of_pos (by decide),
      List.dropWhile_cons_of_neg (by simpa using hspace '\n' rfl)]
  · rintro c ⟨⟩
    exact Text.not_isBlank_of_isVisible hfirst
  · intro c hc
    refine Text.not_isBlank_of_isVisible (getLast?_flatMap hparts ?_)
    rwa [hjoined, List.getLast?_cons_cons]
  · rcases hmem hend with h | h | h <;> revert h <;> decide

namespace Authored

variable {authored : Authored} (hsound : authored.IsSound)

include hsound in
/-- The date is visible but for the space in it. -/
theorem isVisible_of_mem_date {c : Char} (hc : c ∈ authored.date.text authored.spelling) :
    c = ' ' ∨ isVisible c = true := by
  rw [ClockTime.text, List.mem_append, List.mem_cons] at hc
  rcases hc with hc | rfl | hc
  · exact Or.inr (ClockTime.isVisible_of_mem_dateText hc)
  · rcases hsound.spelling.separator with hseparator | hseparator
    · exact Or.inr (by rw [hseparator]; decide)
    · exact Or.inl hseparator
  · exact Or.inr (ClockTime.isVisible_of_mem_clockText hsound.date hc)

include hsound in
/-- The line of the date stands between the fences. -/
theorem isMatterLine_date :
    IsMatterLine ("date: ".toList ++ authored.date.text authored.spelling) where
  visible c hc := by
    rcases List.mem_append.mp hc with hc | hc
    · have hkey : ∀ d ∈ "date: ".toList, d = ' ' ∨ isVisible d = true :=
        List.all_iff_forall_prop.mp (by decide)
      exact hkey c hc
    · exact isVisible_of_mem_date hsound hc
  marked := Or.inl (by simp)
  ends := by
    obtain ⟨c, hlast, hc⟩ := authored.date.exists_getLast?_clockText authored.spelling.zone
    have hend : "date: ".toList ++ authored.date.text authored.spelling =
        ("date: ".toList ++ authored.date.dateText ++ [authored.spelling.separator]) ++
          authored.date.clockText authored.spelling.zone := by
      simp [ClockTime.text]
    refine ⟨c, ?_, ClockTime.isVisible_of_mem_clockText hsound.date (List.mem_of_getLast? hlast)⟩
    rw [hend, List.getLast?_append, hlast, Option.some_or]

include hsound in
/-- All lines stand between the fences. -/
theorem isMatterLine_of_mem {margin : Nat} {field : Field} {line : String}
    (hline : line ∈ authored.lines margin field) : IsMatterLine line.toList := by
  have hquoted {key text : String}
      (hkey : ∀ c ∈ key.toList ++ [':', ' '], c = ' ' ∨ isVisible c = true)
      (htext : ∀ c ∈ text.toList, isQuotable c = true) :
      IsMatterLine (quotedLine key text).toList := by
    simpa [quotedLine] using isMatterLine_quoted hkey htext
  have hitem {text : String} (htext : ∀ c ∈ text.toList, isQuotable c = true) :
      IsMatterLine (itemLine margin text).toList := by
    have hstart : ∀ c ∈ List.replicate margin ' ' ++ ['-', ' '], c = ' ' ∨ isVisible c = true := by
      intro c hc
      rcases List.mem_append.mp hc with hc | hc
      · exact Or.inl (List.eq_of_mem_replicate hc)
      · have hdash : ∀ d ∈ ['-', ' '], d = ' ' ∨ isVisible d = true :=
          List.all_iff_forall_prop.mp (by decide)
        exact hdash c hc
    simpa [itemLine] using isMatterLine_quoted hstart htext
  cases field with
  | title =>
    rw [List.mem_singleton.mp hline]
    exact hquoted (List.all_iff_forall_prop.mp (by decide)) hsound.title
  | description =>
    rw [List.mem_singleton.mp hline]
    exact hquoted (List.all_iff_forall_prop.mp (by decide)) hsound.description
  | author =>
    rw [List.mem_singleton.mp hline]
    exact hquoted (List.all_iff_forall_prop.mp (by decide)) hsound.author
  | date =>
    rw [List.mem_singleton.mp hline]
    simpa using isMatterLine_date hsound
  | tags =>
    rw [lines] at hline
    split at hline
    case isTrue => exact absurd hline List.not_mem_nil
    case isFalse =>
      rcases List.mem_cons.mp hline with rfl | hline
      · exact ⟨List.all_iff_forall_prop.mp (by decide), by decide, ⟨':', by decide, by decide⟩⟩
      · obtain ⟨tag, htag, rfl⟩ := List.mem_map.mp hline
        exact hitem (hsound.tags tag htag)
  | draft =>
    rw [List.mem_singleton.mp hline]
    split <;>
      exact ⟨List.all_iff_forall_prop.mp (by decide), by decide, ⟨'e', by decide, by decide⟩⟩

/-- The date as a plain scalar, of one word or of two. -/
def dateWritten (authored : Authored) : Written :=
  if authored.spelling.separator = ' ' then
    .plain authored.date.dateText [authored.date.clockText authored.spelling.zone]
  else .plain (authored.date.text authored.spelling) []

/-- The entry of a field. -/
def entryOf? (authored : Authored) (margin : Nat) : Field → Option Entry
  | .title => some ⟨Field.title.name.toList, .quoted authored.title.toList⟩
  | .description => some ⟨Field.description.name.toList, .quoted authored.description.toList⟩
  | .author => some ⟨Field.author.name.toList, .quoted authored.author.toList⟩
  | .date => some ⟨Field.date.name.toList, authored.dateWritten⟩
  | .tags =>
    match authored.tags with
    | [] => none
    | tag :: tags =>
      some ⟨Field.tags.name.toList, .items margin tag.toList (tags.map String.toList)⟩
  | .draft =>
    some ⟨Field.draft.name.toList, .plain (if authored.draft then "true" else "false").toList []⟩

/-- The date is written as its text. -/
theorem text_dateWritten (authored : Authored) :
    authored.dateWritten.text = ' ' :: authored.date.text authored.spelling := by
  rw [dateWritten]
  split
  case isTrue hspace =>
    rw [Written.text, ClockTime.text, hspace]
    simp
  case isFalse => simp [Written.text]

/-- The lines of a field are those of its entry. -/
theorem flatMap_lines (authored : Authored) (margin : Nat) (field : Field) :
    (authored.lines margin field).flatMap (fun line => '\n' :: line.toList) =
      (authored.entryOf? margin field).toList.flatMap fun entry => '\n' :: entry.text := by
  cases field with
  | title => simp [lines, entryOf?, quotedLine, Entry.text, Written.text, Field.name]
  | description => simp [lines, entryOf?, quotedLine, Entry.text, Written.text, Field.name]
  | author => simp [lines, entryOf?, quotedLine, Entry.text, Written.text, Field.name]
  | date => simp [lines, entryOf?, Entry.text, text_dateWritten, Field.name]
  | tags =>
    rw [lines, entryOf?]
    cases authored.tags with
    | nil => rfl
    | cons tag tags =>
      simp [Entry.text, Written.text, Field.name, List.flatMap_map, itemLine, Written.itemText]
  | draft =>
    rw [lines, entryOf?]
    cases authored.draft <;> simp [Entry.text, Written.text, Field.name]

/-- The key of an entry is the name of its field. -/
theorem key_of_entryOf? {authored : Authored} {margin : Nat} {field : Field} {entry : Entry}
    (h : authored.entryOf? margin field = some entry) : entry.key = field.name.toList := by
  cases field with
  | tags =>
    rw [entryOf?] at h
    split at h
    · cases h
    · cases h
      rfl
  | _ =>
    cases h
    rfl

include hsound in
/-- A written date is a word. -/
theorem isPlainWord_dateText : IsPlainWord authored.date.dateText where
  first := by
    obtain ⟨a, b, digits, rest, htext, ha, -, -⟩ := ClockTime.exists_dateText_eq hsound.date
    exact ⟨a, _, htext, Calendar.isAlphanum_of_isDigit ha⟩
  solid c hc := Yaml.not_isSpace_of_isVisible (ClockTime.isVisible_of_mem_dateText hc)
  last := by
    obtain ⟨c, hlast, hc⟩ := authored.date.exists_getLast?_dateText
    rw [hlast, ne_eq, Option.some.injEq]
    exact Value.ne_of_isDigit hc ':' rfl

include hsound in
/-- A written time is a word. -/
theorem isPlainWord_clockText :
    IsPlainWord (authored.date.clockText authored.spelling.zone) where
  first := by
    obtain ⟨c, rest, htext, hc⟩ := authored.date.exists_clockText_eq_cons authored.spelling.zone
    exact ⟨c, rest, htext, Calendar.isAlphanum_of_isDigit hc⟩
  solid c hc := Yaml.not_isSpace_of_isVisible (ClockTime.isVisible_of_mem_clockText hsound.date hc)
  last := by
    obtain ⟨c, hlast, hc⟩ := authored.date.exists_getLast?_clockText authored.spelling.zone
    rw [hlast, ne_eq, Option.some.injEq]
    exact Yaml.ne_of_isAlphanum hc ':' rfl

include hsound in
/-- The date is a plain scalar. -/
theorem isSound_dateWritten : authored.dateWritten.IsSound := by
  have hdate := isPlainWord_dateText hsound
  have hclock := isPlainWord_clockText hsound
  rw [dateWritten]
  split
  case isTrue =>
    intro word hword
    rcases List.mem_cons.mp hword with rfl | hword
    · exact hdate
    · rw [List.mem_singleton.mp hword]
      exact hclock
  case isFalse hspace =>
    intro word hword
    rw [List.mem_singleton.mp hword, ClockTime.text,
      hsound.spelling.separator.resolve_right hspace]
    exact hdate.append_cons (by decide) hclock

/-- A sound value makes a sound entry of any field. -/
theorem isSound_of_named {field : Field} {written : Written} (h : written.IsSound) :
    Entry.IsSound ⟨field.name.toList, written⟩ :=
  ⟨field.isPlainWord_name, field.length_name, field.ofPlain_name, h⟩

include hsound in
/-- The entries are such as are read. -/
theorem isSound_of_entryOf? {margin : Nat} {field : Field} {entry : Entry}
    (h : authored.entryOf? margin field = some entry) : entry.IsSound := by
  cases field with
  | title =>
    cases h
    exact isSound_of_named hsound.title
  | description =>
    cases h
    exact isSound_of_named hsound.description
  | author =>
    cases h
    exact isSound_of_named hsound.author
  | date =>
    cases h
    exact isSound_of_named (isSound_dateWritten hsound)
  | tags =>
    rw [entryOf?] at h
    split at h
    case h_1 => cases h
    case h_2 tag tags htags =>
      cases h
      have hquotable := hsound.tags
      rw [htags] at hquotable
      refine isSound_of_named ?_
      rw [Written.IsSound, ← List.map_cons, List.forall_mem_map]
      exact hquotable
  | draft =>
    cases h
    refine isSound_of_named fun word hword => ?_
    rw [List.mem_singleton.mp hword]
    split <;> exact ⟨⟨_, _, rfl, rfl⟩, List.all_iff_forall_prop.mp (by decide), by decide⟩

end Authored

end Folio.Blog
