import Folio.Proofs.Json.Text
import Mathlib.Data.List.DropRight
import Mathlib.Tactic.Tauto

/-!
# JSON texts and spellings

What a JSON text looks like: null, flags, numbers and texts, and lists and objects of any depth,
with white space between all parts. This is what may stand in a field that nobody asks for, so no
number is too large here and no half of a character is missed.

A value of a shape may be spelled in many ways. An object may have its entries in any order, entries
of other names among them and white space between all parts, it may leave out entries that have a
default, and a list of the values of its fields in order stands for it. The parts of a value may be
spelled in all their ways again.
-/

namespace Folio.Json

open Folio.Text (Symbol)

/-- White space between parts of a text. -/
structure Gap where
  chars : List Char
  isBlank_of_mem : ∀ c ∈ chars, isBlank (some c) = true

/-- No white space. -/
def Gap.none : Gap := ⟨[], by simp⟩

/-- White space does not matter in front of what is read behind white space. -/
theorem dropBlank_gap (gap : Gap) (rest : List Symbol) :
    dropBlank (gap.chars.map some ++ rest) = dropBlank rest := by
  rw [dropBlank, dropBlank, List.dropWhile_append_of_pos]
  simpa using gap.isBlank_of_mem

/-- Behind white space there is no white space. -/
theorem dropBlank_dropBlank (s : List Symbol) : dropBlank (dropBlank s) = dropBlank s :=
  List.dropWhile_idempotent _ _

/-- White space is not in front of a visible symbol. -/
theorem dropBlank_cons {c : Char} (hc : isBlank (some c) = false) (rest : List Symbol) :
    dropBlank (some c :: rest) = some c :: rest := by
  rw [dropBlank, List.dropWhile_cons_of_neg (by simp [hc])]

/-- What may stand behind a value: nothing, white space, or the mark that follows an item or an
entry. -/
def EndsValue (rest : List Symbol) : Prop :=
  ∀ c, rest.head? = some c →
    isBlank c = true ∨ c = some ',' ∨ c = some ']' ∨ c = some '}'

/-- Behind a value may stand white space and then one of three marks. -/
theorem endsValue_gap (gap : Gap) {rest : List Symbol} (h : EndsValue rest) :
    EndsValue (gap.chars.map some ++ rest) := by
  obtain ⟨chars, hblank⟩ := gap
  cases chars with
  | nil => exact h
  | cons c chars =>
    intro d hd
    simp only [List.map_cons, List.cons_append, List.head?_cons, Option.some.injEq] at hd
    exact Or.inl (hd ▸ hblank c List.mem_cons_self)

/-- Behind a value may stand one of three marks. -/
theorem endsValue_cons {c : Char} (h : c = ',' ∨ c = ']' ∨ c = '}') (rest : List Symbol) :
    EndsValue (some c :: rest) := by
  intro d hd
  simp only [List.head?_cons, Option.some.injEq] at hd
  rw [← hd]
  rcases h with rfl | rfl | rfl <;> simp

/-- What stands behind a value begins with one of seven characters. -/
theorem EndsValue.head {c : Symbol} {rest : List Symbol} (h : EndsValue (c :: rest)) :
    c = some ' ' ∨ c = some '\n' ∨ c = some '\t' ∨ c = some '\r' ∨ c = some ',' ∨ c = some ']' ∨
      c = some '}' := by
  rcases h c rfl with hblank | hmark
  · simp only [isBlank, Bool.or_eq_true, decide_eq_true_eq] at hblank
    tauto
  · tauto

/-- What stands behind a value does not go on with a digit. -/
theorem EndsValue.takeWhile_isDigit {rest : List Symbol} (h : EndsValue rest) :
    rest.takeWhile isDigit = [] := by
  cases rest with
  | nil => rfl
  | cons c rest => rcases h.head with rfl | rfl | rfl | rfl | rfl | rfl | rfl <;> rfl

/-- A value with white space around it. -/
structure Padded where
  before : Gap
  value : List Char
  after : Gap

/-- A padded value as a text. -/
def Padded.text (item : Padded) : List Char :=
  item.before.chars ++ item.value ++ item.after.chars

/-- A name between quotes, a colon and a padded value. -/
structure Labelled where
  before : Gap
  label : List Char
  between : Gap
  item : Padded

/-- A labelled value as a text. -/
def Labelled.text (member : Labelled) : List Char :=
  member.before.chars ++ '"' :: member.label ++ '"' :: member.between.chars ++
    ':' :: member.item.text

/-- The symbols of a labelled value, part by part. -/
theorem Labelled.text_append (member : Labelled) (rest : List Symbol) :
    member.text.map some ++ rest =
      member.before.chars.map some ++ some '"' :: (member.label.map some ++ some '"' ::
        (member.between.chars.map some ++ some ':' :: (member.item.text.map some ++ rest))) := by
  simp [Labelled.text]

/-- Parts with commas between them; those behind another part have a comma in front of each. -/
def commaed (first : Bool) : List (List Char) → List Char
  | [] => []
  | part :: parts => (if first then part else ',' :: part) ++ commaed false parts

/-- What stands behind a part is a comma or what stands behind all parts. -/
theorem endsValue_commaed (parts : List (List Char)) {rest : List Symbol} (h : EndsValue rest) :
    EndsValue ((commaed false parts).map some ++ rest) := by
  cases parts with
  | nil => exact h
  | cons part parts =>
    rw [commaed, if_neg Bool.false_ne_true, List.cons_append, List.map_cons, List.cons_append]
    exact endsValue_cons (Or.inl rfl) _

/-- A list as a text. -/
def listText (items : List Padded) (gap : Gap) : List Char :=
  '[' :: commaed true (items.map Padded.text) ++ gap.chars ++ [']']

/-- An object as a text. -/
def objectText (members : List Labelled) (gap : Gap) : List Char :=
  '{' :: commaed true (members.map Labelled.text) ++ gap.chars ++ ['}']

/-- Digits, at least one. -/
def IsDigits (s : List Char) : Prop := s ≠ [] ∧ ∀ c ∈ s, c.isDigit = true

/-- The fraction of a number, if there is one. -/
inductive IsFraction : List Char → Prop where
  | none : IsFraction []
  | some {digits : List Char} (h : IsDigits digits) : IsFraction ('.' :: digits)

/-- The exponent of a number, if there is one. -/
inductive IsExponent : List Char → Prop where
  | none : IsExponent []
  | some {mark : Char} {sign digits : List Char} (hmark : mark = 'e' ∨ mark = 'E')
      (hsign : sign = [] ∨ sign = ['+'] ∨ sign = ['-']) (hdigits : IsDigits digits) :
      IsExponent (mark :: sign ++ digits)

/-- A number; a zero is in front only of a fraction or an exponent. -/
inductive IsNumber : List Char → Prop where
  | mk {sign digits fraction exponent : List Char} (hsign : sign = [] ∨ sign = ['-'])
      (hdigits : IsDigits digits) (hzero : digits.head? = some '0' → digits = ['0'])
      (hfraction : IsFraction fraction) (hexponent : IsExponent exponent) :
      IsNumber (sign ++ digits ++ fraction ++ exponent)

/-- A value as a text. -/
inductive IsValue : List Char → Prop where
  | null : IsValue "null".toList
  | yes : IsValue "true".toList
  | no : IsValue "false".toList
  | number {s : List Char} (h : IsNumber s) : IsValue s
  | text {s : List Char} (h : IsText s) : IsValue ('"' :: s ++ ['"'])
  | list (items : List Padded) (gap : Gap) (h : ∀ item ∈ items, IsValue item.value) :
      IsValue (listText items gap)
  | object (members : List Labelled) (gap : Gap) (hlabel : ∀ member ∈ members, IsText member.label)
      (h : ∀ member ∈ members, IsValue member.item.value) : IsValue (objectText members gap)

/-- An item of a list: a padded value, and what it spells. -/
structure Item extends Padded where
  found : Value

/-- An entry of an object: its name, and what its value spells if the name is known. -/
structure Member extends Labelled where
  name : String
  found : Value

/-- The fields of a record: their names and shapes, and what they are when they are missing. -/
abbrev Fields := List (String × Shape × Option Value)

/-- The entries whose names are known. -/
def known (fields : Fields) (members : List Member) : List (String × Value) :=
  (members.filter fun member => (fields.lookup member.name).isSome).map fun member =>
    (member.name, member.found)

/-- The fields of a record in order, missing ones filled in. -/
def fill (found : List (String × Value)) (fields : Fields) : Option (List (String × Value)) :=
  fields.mapM fun field => ((found.lookup field.1).or field.2.2).map (field.1, ·)

/-- A text spells a value of a shape. -/
inductive Spells : Shape → Value → List Char → Prop where
  | text {accepts : String → Bool} {t : String} {s : List Char} (h : SpellsText s t.toList)
      (haccepts : accepts t = true) : Spells (.text accepts) (.text t) ('"' :: s ++ ['"'])
  | flag (b : Bool) : Spells .flag (.flag b) (Value.flag b).print
  | number {largest n : Nat} (hlargest : n ≤ largest) (hn : n ≤ maxNumber) :
      Spells (.number largest) (.number n) (Nat.toDigits 10 n)
  | null (shape : Shape) : Spells (.optional shape) .null "null".toList
  /-- A value that does not begin like null. -/
  | present {shape : Shape} {value : Value} {s : List Char} (h : Spells shape value s)
      (hnull : s.head? ≠ some 'n') : Spells (.optional shape) value s
  | list {shape : Shape} (items : List Item) (gap : Gap)
      (h : ∀ item ∈ items, Spells shape item.found item.value) :
      Spells (.list shape) (.list (items.map Item.found))
        (listText (items.map Item.toPadded) gap)
  /-- Every known name occurs once, and any JSON value may stand under another one. -/
  | object {fields : Fields} (members : List Member) (gap : Gap) {all : List (String × Value)}
      (hlabel : ∀ member ∈ members, SpellsText member.label member.name.toList)
      (hother : ∀ member ∈ members, fields.lookup member.name = none → IsValue member.item.value)
      (hknown : ∀ member ∈ members, ∀ shape absent,
        fields.lookup member.name = some (shape, absent) →
          Spells shape member.found member.item.value)
      (hnodup : ((known fields members).map Prod.fst).Nodup)
      (hall : fill (known fields members) fields = some all) :
      Spells (.record fields) (.object all) (objectText (members.map Member.toLabelled) gap)
  /-- The values of the fields in order. -/
  | positional {fields : Fields} (items : List Item) (gap : Gap)
      (hlength : items.length = fields.length)
      (h : ∀ part ∈ fields.zip items, Spells part.1.2.1 part.2.found part.2.value) :
      Spells (.record fields) (.object ((fields.zip items).map fun part =>
        (part.1.1, part.2.found))) (listText (items.map Item.toPadded) gap)

/-- Some entries may stand in an object with some fields: their names are spelled, and so are the
values under known ones. -/
structure Fitting (fields : Fields) (members : List Member) : Prop where
  label : ∀ member ∈ members, SpellsText member.label member.name.toList
  other : ∀ member ∈ members, fields.lookup member.name = none → IsValue member.item.value
  value : ∀ member ∈ members, ∀ shape absent,
    fields.lookup member.name = some (shape, absent) → Spells shape member.found member.item.value
  nodup : ((known fields members).map Prod.fst).Nodup

/-- An object with entries that fit and fill the fields spells the record of the fields. -/
theorem Fitting.spells {fields : Fields} {members : List Member} (h : Fitting fields members)
    (gap : Gap) {entries : List (String × Value)}
    (hall : fill (known fields members) fields = some entries) :
    Spells (.record fields) (.object entries) (objectText (members.map Member.toLabelled) gap) :=
  .object members gap h.label h.other h.value h.nodup hall

end Folio.Json
