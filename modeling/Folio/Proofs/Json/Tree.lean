import Folio.Proofs.Json.Fit
import Folio.Proofs.Json.Reading

/-!
# Values without a shape

A text may be read as whatever value it holds, with no shape that says what is asked for: a list and
an object are read part by part, a value within them less deep than they are. A value whose numbers
are kept exactly is read back from what is printed for it, so two of them with one text are equal.
-/

namespace Folio.Json

open Folio.Text (Symbol)

namespace Value

/-- Read the entries of an object up to its end. The fuel bounds the entries. -/
def readEntries (read : Reader Value) : Nat → Bool → Reader (List (String × Value))
  | 0, _, _ => .error .syntaxError
  | fuel + 1, first, s => do
    match ← Shape.nextEntry first s with
    | none => return ([], s)
    | some s =>
      let (name, rest) ← Json.text s
      let (value, rest) ← read (← Shape.passColon rest)
      let (entries, rest) ← readEntries read fuel false rest
      return ((name, value) :: entries, rest)

/-- Read an object. -/
def readObject (read : Reader Value) : Reader Value := fun s =>
  match dropBlank s with
  | some '{' :: rest => do
    let (entries, rest) ← readEntries read (rest.length + 1) true rest
    return (.object entries, ← Shape.endObject rest)
  | s => throw (Shape.misfit s)

/-- Read a value up to a depth. -/
def readWithin : Nat → Reader Value
  | 0, _ => .error .syntaxError
  | depth + 1, s =>
    match dropBlank s with
    | some '"' :: _ => Shape.readText (fun _ => true) s
    | some '[' :: _ => Shape.readList (readWithin depth) s
    | some '{' :: _ => readObject (readWithin depth) s
    | some 't' :: _ => Shape.readFlag s
    | some 'f' :: _ => Shape.readFlag s
    | some 'n' :: rest => do return (.null, ← passWord "ull".toList rest)
    | _ => Shape.readNumber maxNumber s

/-- Read a value. It is no deeper than its text is long. -/
def read : Reader Value := fun s => readWithin (s.length + 1) s

/-- The value at the end of a path of names. -/
def at? (path : List String) (value : Value) : Option Value :=
  path.foldlM (fun value name => value.entry? name) value

/-- The names of the entries of an object. -/
def names : Value → List String
  | .object entries => entries.map Prod.fst
  | _ => []

end Value

/-- A value whose numbers are kept exactly. -/
inductive Value.IsExact : Value → Prop where
  | null : IsExact .null
  | flag (b : Bool) : IsExact (.flag b)
  | number {n : Nat} (h : n ≤ maxNumber) : IsExact (.number n)
  | text (s : String) : IsExact (.text s)
  | list {items : List Value} (h : ∀ item ∈ items, IsExact item) : IsExact (.list items)
  | object {entries : List (String × Value)} (h : ∀ entry ∈ entries, IsExact entry.2) :
      IsExact (.object entries)

attribute [simp] Value.IsExact.flag Value.IsExact.text

/-- A number is kept exactly up to the largest one that is. -/
@[simp] theorem Value.isExact_number {n : Nat} : (Value.number n).IsExact ↔ n ≤ maxNumber :=
  ⟨fun h => by cases h; assumption, .number⟩

/-- An object is kept exactly if the values of its entries are. -/
@[simp] theorem Value.isExact_object {entries : List (String × Value)} :
    (Value.object entries).IsExact ↔ ∀ entry ∈ entries, entry.2.IsExact :=
  ⟨fun h => by cases h; assumption, .object⟩

namespace Value

/-- What is printed for a value is a JSON text. -/
theorem IsExact.isValue {value : Value} (h : value.IsExact) : IsValue value.print := by
  induction h with
  | null => exact .null
  | flag b => cases b <;> [exact .no; exact .yes]
  | number => exact .number (isNumber_toDigits _)
  | text s => exact .text (spellsText_escaped s.toList).isText
  | list h ih =>
    rw [print_list]
    exact .list _ _ (List.forall_mem_map.mpr ih)
  | object h ih =>
    rw [print_object]
    exact .object _ _ (List.forall_mem_map.mpr fun entry _ => (spellsText_escaped _).isText)
      (List.forall_mem_map.mpr ih)

/-- A reader of values skips white space. -/
theorem skipsBlank_readWithin (depth : Nat) : SkipsBlank (readWithin depth) := by
  intro s
  cases depth with
  | zero => rfl
  | succ depth =>
    simp only [readWithin, Shape.readText, Shape.readList, readObject, Shape.readFlag,
      Shape.readNumber, dropBlank_dropBlank]

section

variable {read : Reader Value} {entries : List (String × Value)} {s tail rest : List Symbol}

/-- The entries of a printed object are read one after another. -/
theorem readEntries_commaed (first : Bool) (hskips : SkipsBlank read)
    (hfinds : ∀ entry ∈ entries, Finds read entry.2 entry.2.print) {fuel : Nat}
    (hfuel : entries.length < fuel) (htail : EndsValue tail)
    (hend : dropBlank tail = some '}' :: rest) (hs : dropBlank s = dropBlank
      ((commaed first ((entries.map bareEntry).map Labelled.text)).map some ++ tail)) :
    ∃ behind, readEntries read fuel first s = .ok (entries, behind) ∧
      dropBlank behind = some '}' :: rest := by
  induction entries generalizing fuel first s with
  | nil =>
    obtain ⟨fuel, rfl⟩ := Nat.exists_eq_succ_of_ne_zero (Nat.ne_zero_of_lt hfuel)
    rw [List.map_nil, List.map_nil, commaed, List.map_nil, List.nil_append, hend] at hs
    refine ⟨s, ?_, hs⟩
    rw [readEntries, Shape.nextEntry_end first hs]
    rfl
  | cons entry entries ih =>
    obtain ⟨fuel, rfl⟩ := Nat.exists_eq_succ_of_ne_zero (Nat.ne_zero_of_lt hfuel)
    rw [List.map_cons, List.map_cons, Shape.map_commaed_cons] at hs
    have hentry : Finds read entry.2 (bare entry.2).value := hfinds entry List.mem_cons_self
    have hvalue := hentry.padded hskips
      (endsValue_commaed ((entries.map bareEntry).map Labelled.text) htail)
    obtain ⟨behind, hentries, hclose⟩ := ih false
      (fun other h => hfinds other (List.mem_cons_of_mem _ h)) (Nat.lt_of_succ_lt_succ hfuel) rfl
    refine ⟨behind, ?_, hclose⟩
    rw [readEntries, Shape.nextEntry_commaed hs]
    simp only [bind, Except.bind, bareEntry, text_escaped, Shape.passColon_gap, hvalue]
    simp only [bare, Gap.none, List.map_nil, List.nil_append] at hentries ⊢
    rw [hentries]
    rfl

/-- A printed object is found if the values of its entries are. -/
theorem finds_object (hskips : SkipsBlank read)
    (hfinds : ∀ entry ∈ entries, Finds read entry.2 entry.2.print) :
    Finds (readObject read) (.object entries) (Value.object entries).print := by
  intro rest _
  obtain ⟨htail, hend⟩ := Shape.endsValue_closing .none (Or.inr rfl) rest
  have hparts : ∀ part ∈ (entries.map bareEntry).map Labelled.text, part ≠ [] := by
    refine List.forall_mem_map.mpr fun member _ => ?_
    simp [Labelled.text]
  obtain ⟨fuel, hfuel⟩ := Shape.exists_fuel hparts true
    (Gap.none.chars.map some ++ some '}' :: rest)
  rw [List.length_map, List.length_map] at hfuel
  have hentered : entries.length < fuel + 1 + entries.length := by omega
  obtain ⟨behind, hentries, hclose⟩ :=
    readEntries_commaed true hskips hfinds hentered htail hend rfl
  rw [print_object, Shape.objectText_append, readObject, dropBlank_cons (by decide)]
  simp only [bind, Except.bind, hfuel, hentries, Shape.endObject_end hclose]
  rfl

/-- A printed list is found if its items are. -/
theorem finds_list {items : List Value} (hskips : SkipsBlank read)
    (hstarts : ∀ item ∈ items, StartsValue item.print)
    (hfinds : ∀ item ∈ items, Finds read item item.print) :
    Finds (Shape.readList read) (.list items) (Value.list items).print := by
  let parts : List Item := items.map fun value => ⟨bare value, value⟩
  have hlist : Finds (Shape.readList read) (.list (parts.map Item.found))
      (listText (parts.map Item.toPadded) .none) :=
    Shape.finds_list hskips .none (List.forall_mem_map.mpr hstarts)
      (List.forall_mem_map.mpr hfinds)
  rw [print_list]
  simpa [parts, Function.comp_def] using hlist

end

/-- An item of a list is shorter than the list. -/
theorem length_print_lt_list {item : Value} {items : List Value} (h : item ∈ items) :
    item.print.length < (Value.list items).print.length := by
  have hpart := Shape.length_le_of_mem_commaed (List.mem_map_of_mem (f := Padded.text)
    (List.mem_map_of_mem (f := bare) h)) true
  rw [print_list, listText, List.length_append, List.length_append, List.length_cons]
  simp only [bare, Padded.text, Gap.none, List.length_append] at hpart ⊢
  omega

/-- The value of an entry of an object is shorter than the object. -/
theorem length_print_lt_object {entry : String × Value} {entries : List (String × Value)}
    (h : entry ∈ entries) :
    entry.2.print.length < (Value.object entries).print.length := by
  have hpart := Shape.length_le_of_mem_commaed (List.mem_map_of_mem (f := Labelled.text)
    (List.mem_map_of_mem (f := bareEntry) h)) true
  rw [print_object, objectText, List.length_append, List.length_append, List.length_cons]
  simp only [bareEntry, bare, Padded.text, Labelled.text, Gap.none, List.length_append,
    List.length_cons] at hpart ⊢
  omega

/-- What begins with a digit is read as a number. -/
theorem readWithin_of_isDigit {c : Char} (hc : c.isDigit = true) (depth : Nat) (s : List Symbol) :
    readWithin (depth + 1) (some c :: s) = Shape.readNumber maxNumber (some c :: s) := by
  obtain ⟨_, _, heq, hblank, -⟩ := startsValue_of_isDigit hc []
  cases heq
  rw [readWithin, dropBlank_cons hblank]
  -- No other kind of value begins with a digit.
  split
  case h_7 => rfl
  all_goals
    rename_i heq
    cases heq
    exact absurd hc (by decide)

/-- A printed value is found by a reader that goes as deep as its text is long. -/
theorem IsExact.finds {value : Value} (h : value.IsExact) {depth : Nat}
    (hdepth : value.print.length ≤ depth) :
    Finds (readWithin (depth + 1)) value value.print := by
  induction h generalizing depth with
  | null => exact fun _ _ => rfl
  | flag b => cases b <;> exact fun _ _ => rfl
  | @number n h =>
    intro rest hrest
    have hnumber := Shape.finds_number h h rest hrest
    obtain ⟨c, more, hdigits, hc⟩ := exists_toDigits_eq_cons n
    rw [print]
    rw [hdigits, List.map_cons, List.cons_append] at hnumber ⊢
    rw [readWithin_of_isDigit hc]
    exact hnumber
  | text s =>
    have htext : Finds (Shape.readText fun _ => true) (.text s) (quoted s.toList) :=
      Shape.finds_text (spellsText_escaped s.toList) rfl
    exact htext
  | @list items h ih =>
    -- An item is shorter than its list, so a reader that goes one step less deep finds it.
    have hitems : ∀ item ∈ items, Finds (readWithin depth) item item.print := by
      intro item hitem
      have hlength := Nat.lt_of_lt_of_le (length_print_lt_list hitem) hdepth
      obtain ⟨depth, rfl⟩ := Nat.exists_eq_succ_of_ne_zero (Nat.ne_zero_of_lt hlength)
      exact ih item hitem (Nat.le_of_lt_succ hlength)
    have hlist := finds_list (skipsBlank_readWithin depth)
      (fun item hitem => (h item hitem).isValue.startsValue) hitems
    intro rest hrest
    have hread := hlist rest hrest
    rw [print_list, Shape.listText_append] at hread ⊢
    exact hread
  | @object entries h ih =>
    have hentries : ∀ entry ∈ entries, Finds (readWithin depth) entry.2 entry.2.print := by
      intro entry hentry
      have hlength := Nat.lt_of_lt_of_le (length_print_lt_object hentry) hdepth
      obtain ⟨depth, rfl⟩ := Nat.exists_eq_succ_of_ne_zero (Nat.ne_zero_of_lt hlength)
      exact ih entry hentry (Nat.le_of_lt_succ hlength)
    intro rest hrest
    have hread := finds_object (skipsBlank_readWithin depth) hentries rest hrest
    rw [print_object, Shape.objectText_append] at hread ⊢
    exact hread

/-- A value whose numbers are kept exactly is read back from its text, with nothing left over. -/
theorem IsExact.read_print {value : Value} (h : value.IsExact) :
    read (value.print.map some) = .ok (value, []) := by
  have hread := h.finds (Nat.le_refl _) [] (by intro c hc; cases hc)
  rw [List.append_nil] at hread
  rw [read, List.length_map, hread]

/-- Values whose numbers are kept exactly are equal if their texts are. -/
theorem IsExact.eq_of_print_eq {value other : Value} (h : value.IsExact) (hother : other.IsExact)
    (hprint : value.print = other.print) : value = other := by
  have hread := h.read_print
  rw [hprint, hother.read_print] at hread
  cases hread
  rfl

end Value

end Folio.Json
