import Folio.Proofs.Json.Passing

/-!
# Spelled values are read

Whatever spells a value of a shape is read as that value, up to what stands behind it. A reader
looks at a text behind its white space only, so the white space between parts is dropped by the
reader of the next part. The entries of an object are read one after another: a known one is kept
and any other one is passed, so what is found does not depend on the others.
-/

namespace Folio.Json

open Folio.Text (Symbol)

/-- A text and that text behind its white space are the same to a reader. -/
def SkipsBlank (read : Reader Value) : Prop :=
  ∀ s, read (dropBlank s) = read s

/-- White space in front of a value does not matter. -/
theorem SkipsBlank.gap {read : Reader Value} (h : SkipsBlank read) (gap : Gap) (s : List Symbol) :
    read (gap.chars.map some ++ s) = read s := by
  rw [← h, dropBlank_gap, h]

/-- The readers of the shapes skip white space. -/
theorem Shape.skipsBlank (shape : Shape) : SkipsBlank shape.read := by
  intro s
  cases shape <;> simp only [Shape.read, Shape.readText, Shape.readFlag, Shape.readNumber,
    Shape.readList, Shape.readOptional, Shape.readRecord, dropBlank_dropBlank]

/-- A digit is the first character of a written number. -/
theorem exists_toDigits_eq_cons (n : Nat) :
    ∃ c more, Nat.toDigits 10 n = c :: more ∧ c.isDigit = true := by
  obtain ⟨c, more, hdigits⟩ := List.exists_cons_of_ne_nil (Nat.toDigits_ne_nil (b := 10) (n := n))
  exact ⟨c, more, hdigits,
    Nat.isDigit_of_mem_toDigits (by decide) (by decide) (hdigits ▸ List.mem_cons_self)⟩

/-- What spells a value begins as one. -/
theorem Spells.startsValue {shape : Shape} {value : Value} {s : List Char}
    (h : Spells shape value s) : StartsValue s := by
  induction h with
  | text | null | list | object | positional =>
    exact ⟨_, _, rfl, by decide, by decide, by decide⟩
  | flag b => cases b <;> exact ⟨_, _, rfl, by decide, by decide, by decide⟩
  | @number largest n =>
    obtain ⟨c, more, hdigits, hc⟩ := exists_toDigits_eq_cons n
    rw [hdigits]
    exact startsValue_of_isDigit hc more
  | present _ _ ih => exact ih

/-- A reader finds a value in a text, up to what ends a value. -/
def Finds (read : Reader Value) (value : Value) (s : List Char) : Prop :=
  ∀ rest, EndsValue rest → read (s.map some ++ rest) = .ok (value, rest)

/-- A padded value is found behind its white space. -/
theorem Finds.padded {read : Reader Value} {value : Value} {item : Padded}
    (h : Finds read value item.value) (hskips : SkipsBlank read) {rest : List Symbol}
    (hrest : EndsValue rest) :
    read (item.text.map some ++ rest) = .ok (value, item.after.chars.map some ++ rest) := by
  rw [Padded.text, List.map_append, List.map_append, List.append_assoc, List.append_assoc,
    hskips.gap, h _ (endsValue_gap item.after hrest)]

namespace Shape

/-- A spelled text that passes the test is found. -/
theorem finds_text {accepts : String → Bool} {t : String} {s : List Char}
    (h : SpellsText s t.toList) (haccepts : accepts t = true) :
    Finds (readText accepts) (.text t) ('"' :: s ++ ['"']) := by
  intro rest _
  rw [List.cons_append, List.map_cons, List.cons_append, readText, dropBlank_cons (by decide),
    List.map_append, List.append_assoc]
  simp only [List.map_cons, List.map_nil, List.cons_append, List.nil_append, text_spelled h,
    String.ofList_toList, bind, Except.bind, haccepts, if_true]
  rfl

/-- A number up to the largest one is found. -/
theorem finds_number {largest n : Nat} (hlargest : n ≤ largest) (hn : n ≤ maxNumber) :
    Finds (readNumber largest) (.number n) (Nat.toDigits 10 n) := by
  intro rest hrest
  have hnumber := number_toDigits hn hrest
  obtain ⟨c, more, hdigits, hc⟩ := exists_toDigits_eq_cons n
  obtain ⟨_, _, heq, hblank, -⟩ := startsValue_of_isDigit hc more
  cases heq
  rw [hdigits, List.map_cons, List.cons_append] at hnumber ⊢
  rw [readNumber, dropBlank_cons hblank]
  simp [isDigit, hc, hnumber, hlargest, bind, Except.bind, pure, Except.pure]

/-- A value that does not begin like null is found where it may be missing. -/
theorem finds_present {value : Reader Value} {v : Value} {s : List Char} (h : Finds value v s)
    (hstarts : StartsValue s) (hnull : s.head? ≠ some 'n') : Finds (readOptional value) v s := by
  intro rest hrest
  have hvalue := h rest hrest
  obtain ⟨c, more, rfl, hblank, -⟩ := hstarts
  rw [List.map_cons, List.cons_append] at hvalue ⊢
  rw [readOptional, dropBlank_cons hblank]
  split
  case h_1 heq =>
    rw [Option.some.inj (List.cons.inj heq).1] at hnull
    exact absurd rfl hnull
  case h_2 => exact hvalue

/-- Parts from the first one on. -/
theorem map_commaed_cons (first : Bool) (part : List Char) (parts : List (List Char))
    (rest : List Symbol) :
    (commaed first (part :: parts)).map some ++ rest =
      (if first then part else ',' :: part).map some ++
        ((commaed false parts).map some ++ rest) := by
  rw [commaed, List.map_append, List.append_assoc]

/-- Every part takes a place in the text. -/
theorem length_le_length_commaed (first : Bool) {parts : List (List Char)}
    (h : ∀ part ∈ parts, part ≠ []) : parts.length ≤ (commaed first parts).length := by
  induction parts generalizing first with
  | nil => exact Nat.zero_le _
  | cons part parts ih =>
    have hpart := List.length_pos_iff.mpr (h part List.mem_cons_self)
    have hparts := ih false fun other hother => h other (List.mem_cons_of_mem _ hother)
    cases first <;> simp only [commaed, Bool.false_eq_true, if_true, if_false, List.length_append,
      List.length_cons] <;> omega

/-- A part is no longer than all parts with their commas. -/
theorem length_le_of_mem_commaed {part : List Char} {parts : List (List Char)} (h : part ∈ parts)
    (first : Bool) : part.length ≤ (commaed first parts).length := by
  induction parts generalizing first with
  | nil => cases h
  | cons other parts ih =>
    rw [commaed, List.length_append]
    cases h with
    | head =>
      have hpart : part.length ≤ (if first then part else ',' :: part).length := by
        cases first <;> simp
      omega
    | tail _ h =>
      have := ih h false
      omega

/-- The next item of a list is behind the comma, if there is one before it. -/
theorem nextItem_commaed {first : Bool} {item : Padded} (hstarts : StartsValue item.value)
    {s rest : List Symbol} (hs : dropBlank s =
      dropBlank ((if first then item.text else ',' :: item.text).map some ++ rest)) :
    nextItem first s = .ok (some (dropBlank (item.text.map some ++ rest))) := by
  obtain ⟨c, more, hitem, hend⟩ := Padded.exists_dropBlank_eq_cons hstarts rest
  cases first with
  | true =>
    rw [if_pos rfl, hitem] at hs
    rw [nextItem, hs, hitem]
    simp [hend]
  | false =>
    rw [if_neg Bool.false_ne_true, List.map_cons, List.cons_append,
      dropBlank_cons (by decide)] at hs
    rw [nextItem, hs]
    simp [hitem, hend]

/-- No item is left at the end of a list. -/
theorem nextItem_end (first : Bool) {s rest : List Symbol} (hs : dropBlank s = some ']' :: rest) :
    nextItem first s = .ok none := by
  rw [nextItem, hs]
  simp

/-- The end of a list is passed. -/
theorem endList_end {s rest : List Symbol} (hs : dropBlank s = some ']' :: rest) :
    endList s = .ok rest := by
  rw [endList, hs]
  simp

variable {items : List Item} {s tail rest : List Symbol}

/-- The items of a list are found. -/
theorem readItems_commaed (first : Bool) {read : Reader Value} (hskips : SkipsBlank read)
    (hstarts : ∀ item ∈ items, StartsValue item.value)
    (hfinds : ∀ item ∈ items, Finds read item.found item.value) {fuel : Nat}
    (hfuel : items.length < fuel) (htail : EndsValue tail)
    (hend : dropBlank tail = some ']' :: rest)
    (hs : dropBlank s = dropBlank
      ((commaed first ((items.map Item.toPadded).map Padded.text)).map some ++ tail)) :
    ∃ behind, readItems read fuel first s = .ok (items.map Item.found, behind) ∧
      dropBlank behind = some ']' :: rest := by
  induction items generalizing fuel first s with
  | nil =>
    obtain ⟨fuel, rfl⟩ := Nat.exists_eq_succ_of_ne_zero (Nat.ne_zero_of_lt hfuel)
    rw [List.map_nil, List.map_nil, commaed, List.map_nil, List.nil_append, hend] at hs
    refine ⟨s, ?_, hs⟩
    rw [readItems, nextItem_end first hs]
    rfl
  | cons item items ih =>
    obtain ⟨fuel, rfl⟩ := Nat.exists_eq_succ_of_ne_zero (Nat.ne_zero_of_lt hfuel)
    rw [List.map_cons, List.map_cons, map_commaed_cons] at hs
    have hitem := (hfinds item List.mem_cons_self).padded hskips
      (endsValue_commaed ((items.map Item.toPadded).map Padded.text) htail)
    have hgap := dropBlank_gap item.after
      ((commaed false ((items.map Item.toPadded).map Padded.text)).map some ++ tail)
    obtain ⟨behind, hitems, hclose⟩ := ih false
      (fun other h => hstarts other (List.mem_cons_of_mem _ h))
      (fun other h => hfinds other (List.mem_cons_of_mem _ h)) (Nat.lt_of_succ_lt_succ hfuel) hgap
    refine ⟨behind, ?_, hclose⟩
    rw [readItems, nextItem_commaed (hstarts item List.mem_cons_self) hs]
    simp only [bind, Except.bind, hskips _, hitem, hitems]
    rfl

/-- Behind all items or entries stands what ends a value, and behind white space the closing
mark. -/
theorem endsValue_closing (gap : Gap) {mark : Char} (hmark : mark = ']' ∨ mark = '}')
    (rest : List Symbol) :
    EndsValue (gap.chars.map some ++ some mark :: rest) ∧
      dropBlank (gap.chars.map some ++ some mark :: rest) = some mark :: rest := by
  refine ⟨endsValue_gap gap (endsValue_cons (Or.inr hmark) rest), ?_⟩
  rw [dropBlank_gap]
  rcases hmark with rfl | rfl <;> exact dropBlank_cons (by decide) rest

/-- The symbols of a list. -/
theorem listText_append (items : List Padded) (gap : Gap) (rest : List Symbol) :
    (listText items gap).map some ++ rest =
      some '[' :: ((commaed true (items.map Padded.text)).map some ++
        (gap.chars.map some ++ some ']' :: rest)) := by
  simp [listText]

/-- The symbols of an object. -/
theorem objectText_append (members : List Labelled) (gap : Gap) (rest : List Symbol) :
    (objectText members gap).map some ++ rest =
      some '{' :: ((commaed true (members.map Labelled.text)).map some ++
        (gap.chars.map some ++ some '}' :: rest)) := by
  simp [objectText]

/-- A value takes a place in its text. -/
theorem Padded.text_ne_nil {item : Padded} (h : StartsValue item.value) : item.text ≠ [] := by
  obtain ⟨c, more, hvalue, -⟩ := h
  simp [Padded.text, hvalue]

/-- A list is found if its items are. -/
theorem finds_list {read : Reader Value} (hskips : SkipsBlank read) (gap : Gap)
    (hstarts : ∀ item ∈ items, StartsValue item.value)
    (hfinds : ∀ item ∈ items, Finds read item.found item.value) :
    Finds (readList read) (.list (items.map Item.found))
      (listText (items.map Item.toPadded) gap) := by
  intro rest _
  obtain ⟨htail, hend⟩ := endsValue_closing gap (Or.inl rfl) rest
  have hlength : items.length ≤
      (commaed true ((items.map Item.toPadded).map Padded.text)).length := by
    have hparts := length_le_length_commaed true
      (List.forall_mem_map.mpr (List.forall_mem_map.mpr fun item hitem =>
        Padded.text_ne_nil (hstarts item hitem)))
    rwa [List.length_map, List.length_map] at hparts
  have hfuel : items.length <
      ((commaed true ((items.map Item.toPadded).map Padded.text)).map some ++
        (gap.chars.map some ++ some ']' :: rest)).length + 1 := by
    rw [List.length_append, List.length_map]
    omega
  obtain ⟨behind, hitems, hclose⟩ :=
    readItems_commaed true hskips hstarts hfinds hfuel htail hend rfl
  rw [listText_append, readList, dropBlank_cons (by decide)]
  simp only [bind, Except.bind, hitems, endList_end hclose]
  rfl

/-- The fields of a record are found in a list of their values. -/
theorem readPositional_commaed (first : Bool) {fields : Fields}
    (hlength : items.length = fields.length)
    (hstarts : ∀ part ∈ fields.zip items, StartsValue part.2.value)
    (hfinds : ∀ part ∈ fields.zip items, Finds part.1.2.1.read part.2.found part.2.value)
    (htail : EndsValue tail) (hend : dropBlank tail = some ']' :: rest)
    (hs : dropBlank s = dropBlank
      ((commaed first ((items.map Item.toPadded).map Padded.text)).map some ++ tail)) :
    ∃ behind, readPositional (fieldReaders fields) first s =
        .ok ((fields.zip items).map fun part => (part.1.1, part.2.found), behind) ∧
      dropBlank behind = some ']' :: rest := by
  induction fields generalizing items first s with
  | nil =>
    obtain rfl := List.eq_nil_of_length_eq_zero hlength
    rw [List.map_nil, List.map_nil, commaed, List.map_nil, List.nil_append, hend] at hs
    refine ⟨s, ?_, hs⟩
    rw [fieldReaders, readPositional]
    rfl
  | cons field fields ih =>
    obtain ⟨name, shape, absent⟩ := field
    obtain ⟨item, items, rfl⟩ := List.exists_cons_of_length_eq_add_one hlength
    rw [List.map_cons, List.map_cons, map_commaed_cons] at hs
    rw [List.zip_cons_cons] at hstarts hfinds
    have hitem := (hfinds _ List.mem_cons_self).padded shape.skipsBlank
      (endsValue_commaed ((items.map Item.toPadded).map Padded.text) htail)
    have hgap := dropBlank_gap item.after
      ((commaed false ((items.map Item.toPadded).map Padded.text)).map some ++ tail)
    obtain ⟨behind, hitems, hclose⟩ := ih false (Nat.succ.inj hlength)
      (fun part h => hstarts part (List.mem_cons_of_mem _ h))
      (fun part h => hfinds part (List.mem_cons_of_mem _ h)) hgap
    refine ⟨behind, ?_, hclose⟩
    rw [fieldReaders, readPositional, nextItem_commaed (hstarts _ List.mem_cons_self) hs]
    simp only [bind, Except.bind, shape.skipsBlank _, hitem, hitems]
    rfl

/-- A record is found in a list of the values of its fields. -/
theorem finds_positional {fields : Fields} (gap : Gap) (hlength : items.length = fields.length)
    (hstarts : ∀ part ∈ fields.zip items, StartsValue part.2.value)
    (hfinds : ∀ part ∈ fields.zip items, Finds part.1.2.1.read part.2.found part.2.value) :
    Finds (readRecord (fieldReaders fields))
      (.object ((fields.zip items).map fun part => (part.1.1, part.2.found)))
      (listText (items.map Item.toPadded) gap) := by
  intro rest _
  obtain ⟨htail, hend⟩ := endsValue_closing gap (Or.inl rfl) rest
  obtain ⟨behind, hitems, hclose⟩ :=
    readPositional_commaed true hlength hstarts hfinds htail hend rfl
  rw [listText_append, readRecord, dropBlank_cons (by decide)]
  simp only [bind, Except.bind, hitems, endList_end hclose]
  rfl

/-- The reader of a field is found by its name. -/
theorem find?_fieldReaders (fields : Fields) (name : String) :
    (fieldReaders fields).find? (fun field => field.name = name) =
      (fields.lookup name).map fun field => ⟨name, field.1.read, field.2⟩ := by
  induction fields with
  | nil => rfl
  | cons field fields ih =>
    obtain ⟨other, shape, absent⟩ := field
    rw [fieldReaders, List.find?_cons, List.lookup_cons]
    by_cases hname : other = name
    · subst hname
      simp
    · have hname' : (name == other) = false := beq_false_of_ne (Ne.symm hname)
      simp [hname, hname', ih]

/-- Fields that are filled make a record, and data is missing where they are not. -/
theorem complete_fieldReaders (found : List (String × Value)) (fields : Fields) :
    complete found (fieldReaders fields) = (fill found fields).elim (.error .wrongData) .ok := by
  induction fields with
  | nil => rfl
  | cons field fields ih =>
    obtain ⟨name, shape, absent⟩ := field
    rw [fieldReaders, complete, fill, List.mapM_cons]
    rw [fill] at ih
    cases (found.lookup name).or absent with
    | none => rfl
    | some value =>
      rw [ih]
      cases fields.mapM fun field => ((found.lookup field.1).or field.2.2).map (field.1, ·) <;> rfl

/-- A name is not one of those of other entries. -/
theorem lookup_eq_none_of_notMem {name : String} {entries : List (String × Value)}
    (h : name ∉ entries.map Prod.fst) : entries.lookup name = none := by
  rw [List.lookup_eq_none_iff]
  intro entry hentry
  simp only [bne_iff_ne, ne_eq]
  rintro rfl
  exact h (List.mem_map_of_mem hentry)

/-- The next entry of an object is behind the comma, if there is one before it. -/
theorem nextEntry_commaed {first : Bool} {member : Labelled} (hs : dropBlank s =
      dropBlank ((if first then member.text else ',' :: member.text).map some ++ rest)) :
    nextEntry first s = .ok (some (member.label.map some ++ some '"' ::
      (member.between.chars.map some ++ some ':' :: (member.item.text.map some ++ rest)))) := by
  have hmember : dropBlank (member.text.map some ++ rest) =
      some '"' :: (member.label.map some ++ some '"' ::
        (member.between.chars.map some ++ some ':' :: (member.item.text.map some ++ rest))) := by
    rw [member.text_append, dropBlank_gap, dropBlank_cons (by decide)]
  cases first with
  | true =>
    rw [if_pos rfl, hmember] at hs
    rw [nextEntry, hs]
    simp
  | false =>
    rw [if_neg Bool.false_ne_true, List.map_cons, List.cons_append,
      dropBlank_cons (by decide)] at hs
    rw [nextEntry, hs]
    simp [hmember]

/-- No entry is left at the end of an object. -/
theorem nextEntry_end (first : Bool) (hs : dropBlank s = some '}' :: rest) :
    nextEntry first s = .ok none := by
  rw [nextEntry, hs]
  simp

/-- The end of an object is passed. -/
theorem endObject_end (hs : dropBlank s = some '}' :: rest) : endObject s = .ok rest := by
  rw [endObject, hs]
  simp

/-- The colon behind a name is passed. -/
theorem passColon_gap (gap : Gap) (rest : List Symbol) :
    passColon (gap.chars.map some ++ some ':' :: rest) = .ok rest := by
  rw [passColon, dropBlank_gap, dropBlank_cons (by decide)]
  simp

variable {fields : Fields} {first : Bool}

/-- One entry is read: it is kept if its name is known, and passed if not. -/
theorem readEntries_member {member : Member}
    (hlabel : SpellsText member.label member.name.toList)
    (hother : fields.lookup member.name = none → IsValue member.item.value)
    (hknown : ∀ shape absent, fields.lookup member.name = some (shape, absent) →
      Finds shape.read member.found member.item.value)
    {earlier : List (String × Value)}
    (hnew : (earlier.map Prod.fst ++ (known fields [member]).map Prod.fst).Nodup)
    (hrest : EndsValue rest)
    (hs : dropBlank s =
      dropBlank ((if first then member.text else ',' :: member.text).map some ++ rest))
    (fuel : Nat) :
    readEntries (fieldReaders fields) (fuel + 1) first earlier s =
      readEntries (fieldReaders fields) fuel false (earlier ++ known fields [member])
        (member.item.after.chars.map some ++ rest) := by
  rw [readEntries, nextEntry_commaed hs]
  simp only [bind, Except.bind, text_spelled hlabel, String.ofList_toList, passColon_gap,
    find?_fieldReaders]
  cases hfield : fields.lookup member.name with
  | none =>
    have hvalue := passValue_append member.item.before (hother hfield)
      (endsValue_gap member.item.after hrest)
    simp only [Option.map_none]
    rw [Padded.text, List.map_append, List.map_append, List.append_assoc, List.append_assoc,
      hvalue]
    simp [known, hfield]
  | some field =>
    obtain ⟨shape, absent⟩ := field
    have hvalue := (hknown shape absent hfield).padded shape.skipsBlank hrest
    have hfirst : earlier.lookup member.name = none := by
      refine lookup_eq_none_of_notMem fun hmem => ?_
      exact (List.nodup_append.mp hnew).2.2 _ hmem member.name (by simp [known, hfield]) rfl
    simp only [Option.map_some, hfirst, hvalue, Option.isSome_none, Bool.false_eq_true, if_false]
    simp [known, hfield]

/-- The entries of an object are read one after another, and the known ones are kept. -/
theorem readEntries_commaed (first : Bool) {members : List Member}
    (hlabel : ∀ member ∈ members, SpellsText member.label member.name.toList)
    (hother : ∀ member ∈ members, fields.lookup member.name = none → IsValue member.item.value)
    (hknown : ∀ member ∈ members, ∀ shape absent,
      fields.lookup member.name = some (shape, absent) →
        Finds shape.read member.found member.item.value)
    (earlier : List (String × Value))
    (hnodup : (earlier.map Prod.fst ++ (known fields members).map Prod.fst).Nodup)
    (htail : EndsValue tail) (hs : dropBlank s = dropBlank
      ((commaed first ((members.map Member.toLabelled).map Labelled.text)).map some ++ tail))
    (fuel : Nat) :
    ∃ behind, readEntries (fieldReaders fields) (fuel + members.length) first earlier s =
        readEntries (fieldReaders fields) fuel (first && members.isEmpty)
          (earlier ++ known fields members) behind ∧
      dropBlank behind = dropBlank tail := by
  induction members generalizing first earlier s with
  | nil =>
    rw [List.map_nil, List.map_nil, commaed, List.map_nil, List.nil_append] at hs
    refine ⟨s, ?_, hs⟩
    simp [known]
  | cons member members ih =>
    rw [List.map_cons, List.map_cons, map_commaed_cons] at hs
    have hsplit : known fields (member :: members) =
        known fields [member] ++ known fields members := by
      rw [known, ← List.singleton_append, List.filter_append, List.map_append]
      rfl
    rw [hsplit, List.map_append, ← List.append_assoc] at hnodup
    have hnodup' : ((earlier ++ known fields [member]).map Prod.fst ++
        (known fields members).map Prod.fst).Nodup := by rwa [List.map_append]
    have hgap := dropBlank_gap member.item.after
      ((commaed false ((members.map Member.toLabelled).map Labelled.text)).map some ++ tail)
    obtain ⟨behind, hmembers, hbehind⟩ := ih false
      (fun other h => hlabel other (List.mem_cons_of_mem _ h))
      (fun other h => hother other (List.mem_cons_of_mem _ h))
      (fun other h => hknown other (List.mem_cons_of_mem _ h)) _ hnodup' hgap
    refine ⟨behind, ?_, hbehind⟩
    rw [List.length_cons, ← Nat.add_assoc, readEntries_member (hlabel _ List.mem_cons_self)
      (hother _ List.mem_cons_self) (hknown _ List.mem_cons_self) (List.nodup_append.mp hnodup).1
      (endsValue_commaed _ htail) hs, hmembers, hsplit]
    simp

/-- Fuel for as many parts as a text has, and one more. -/
theorem exists_fuel {parts : List (List Char)} (h : ∀ part ∈ parts, part ≠ []) (first : Bool)
    (tail : List Symbol) :
    ∃ fuel, ((commaed first parts).map some ++ tail).length + 1 = fuel + 1 + parts.length := by
  have hlength := length_le_length_commaed first h
  refine ⟨(commaed first parts).length + tail.length - parts.length, ?_⟩
  simp only [List.length_append, List.length_map]
  omega

/-- The entries of an object are read from its start. -/
theorem readEntries_opened {members : List Member}
    (hlabel : ∀ member ∈ members, SpellsText member.label member.name.toList)
    (hother : ∀ member ∈ members, fields.lookup member.name = none → IsValue member.item.value)
    (hknown : ∀ member ∈ members, ∀ shape absent,
      fields.lookup member.name = some (shape, absent) →
        Finds shape.read member.found member.item.value)
    (hnodup : ((known fields members).map Prod.fst).Nodup) (htail : EndsValue tail) :
    let s := (commaed true ((members.map Member.toLabelled).map Labelled.text)).map some ++ tail
    ∃ fuel behind, readEntries (fieldReaders fields) (s.length + 1) true [] s =
        readEntries (fieldReaders fields) (fuel + 1) members.isEmpty (known fields members)
          behind ∧
      dropBlank behind = dropBlank tail := by
  have hparts : ∀ part ∈ (members.map Member.toLabelled).map Labelled.text, part ≠ [] := by
    refine List.forall_mem_map.mpr fun member _ => ?_
    simp [Labelled.text]
  obtain ⟨fuel, hfuel⟩ := exists_fuel hparts true tail
  obtain ⟨behind, hentries, hbehind⟩ :=
    readEntries_commaed true hlabel hother hknown [] hnodup htail rfl (fuel + 1)
  rw [List.length_map, List.length_map] at hfuel
  refine ⟨fuel, behind, ?_, hbehind⟩
  rw [hfuel, hentries, Bool.true_and, List.nil_append]

/-- An object is read to its end if its entries are: it is found if they fill the fields, and data
is missing if they do not. -/
theorem readRecord_objectText {members : List Member} (gap : Gap)
    (hlabel : ∀ member ∈ members, SpellsText member.label member.name.toList)
    (hother : ∀ member ∈ members, fields.lookup member.name = none → IsValue member.item.value)
    (hknown : ∀ member ∈ members, ∀ shape absent,
      fields.lookup member.name = some (shape, absent) →
        Finds shape.read member.found member.item.value)
    (hnodup : ((known fields members).map Prod.fst).Nodup) (rest : List Symbol) :
    readRecord (fieldReaders fields)
        ((objectText (members.map Member.toLabelled) gap).map some ++ rest) =
      (fill (known fields members) fields).elim (.error .wrongData)
        fun entries => .ok (.object entries, rest) := by
  obtain ⟨htail, hend⟩ := endsValue_closing gap (Or.inr rfl) rest
  obtain ⟨fuel, behind, hentries, hbehind⟩ :=
    readEntries_opened hlabel hother hknown hnodup htail
  rw [hend] at hbehind
  rw [objectText_append, readRecord, dropBlank_cons (by decide)]
  simp only [bind, Except.bind, hentries]
  rw [readEntries, nextEntry_end _ hbehind]
  simp only [bind, Except.bind, pure, Except.pure, complete_fieldReaders]
  cases fill (known fields members) fields <;> simp [endObject_end hbehind]

end Shape

/-- Whatever spells a value of a shape is read as that value. -/
theorem Spells.finds {shape : Shape} {value : Value} {s : List Char} (h : Spells shape value s) :
    Finds shape.read value s := by
  induction h with
  | text h haccepts => exact Shape.finds_text h haccepts
  | flag b =>
    intro rest _
    cases b <;> rfl
  | number hlargest hn => exact Shape.finds_number hlargest hn
  | null shape => exact fun _ _ => rfl
  | present h hnull ih => exact Shape.finds_present ih h.startsValue hnull
  | @list shape items gap h ih =>
    exact Shape.finds_list shape.skipsBlank gap (fun item hitem => (h item hitem).startsValue) ih
  | object members gap hlabel hother hknown hnodup hall ih =>
    intro rest _
    rw [Shape.read, Shape.readRecord_objectText gap hlabel hother ih hnodup, hall]
    rfl
  | positional items gap hlength h ih =>
    exact Shape.finds_positional gap hlength (fun part hpart => (h part hpart).startsValue) ih

end Folio.Json
