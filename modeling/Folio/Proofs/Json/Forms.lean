import Folio.Proofs.Json.Record

/-!
# The forms of a record

A record is read from an object with its fields in any order, from one with other entries among
them, and from a list of the values of its fields in order. What is read depends only on the known
entries, not on where they stand, and a name that comes up again or does not come up is a fault of
the data.
-/

namespace Folio.Json

open Folio.Text (Symbol symbols charBytes symbols_charBytes_append)

/-- A value is found under a name if there is an entry of them and no other one of the name. -/
theorem lookup_eq_some_iff {entries : List (String × Value)} (h : (entries.map Prod.fst).Nodup)
    (name : String) (value : Value) :
    entries.lookup name = some value ↔ (name, value) ∈ entries := by
  induction entries with
  | nil => simp
  | cons entry entries ih =>
    obtain ⟨other, found⟩ := entry
    rw [List.map_cons, List.nodup_cons] at h
    rw [List.lookup_cons, List.mem_cons, Prod.mk.injEq]
    by_cases hname : name = other
    · subst hname
      have hnot : (name, value) ∉ entries := fun hmem =>
        h.1 (List.mem_map.mpr ⟨(name, value), hmem, rfl⟩)
      simp [hnot, eq_comm]
    · simp [beq_false_of_ne hname, hname, ih h.2]

/-- Entries in another order are found under the same names. -/
theorem lookup_perm {entries others : List (String × Value)} (hperm : entries.Perm others)
    (h : (entries.map Prod.fst).Nodup) (name : String) :
    entries.lookup name = others.lookup name := by
  have hothers := (hperm.map Prod.fst).nodup_iff.mp h
  ext value
  rw [lookup_eq_some_iff h, lookup_eq_some_iff hothers, hperm.mem_iff]

/-- Entries in another order fill the fields in the same way. -/
theorem fill_perm {entries others : List (String × Value)} (hperm : entries.Perm others)
    (h : (entries.map Prod.fst).Nodup) (fields : Fields) :
    fill entries fields = fill others fields := by
  simp only [fill, lookup_perm hperm h]

/-- A name that must be there and is not leaves the fields unfilled. -/
theorem fill_eq_none {entries : List (String × Value)} {fields : Fields} {name : String}
    {shape : Shape} (hfield : (name, shape, none) ∈ fields) (h : name ∉ entries.map Prod.fst) :
    fill entries fields = none := by
  induction fields with
  | nil => cases hfield
  | cons field fields ih =>
    rw [fill, List.mapM_cons]
    rcases List.mem_cons.mp hfield with rfl | hmem
    · simp [Shape.lookup_eq_none_of_notMem h]
    · rw [← fill, ih hmem]
      cases ((entries.lookup field.1).or field.2.2).map (field.1, ·) <;> rfl

/-- A field is filled with the entry of its name, or with what it is when it is missing. -/
theorem lookup_of_fill {found entries : List (String × Value)} {fields : Fields}
    (h : fill found fields = some entries) {name : String} {shape : Shape} {absent : Option Value}
    (hfield : fields.lookup name = some (shape, absent)) :
    entries.lookup name = (found.lookup name).or absent := by
  induction fields generalizing entries with
  | nil => cases hfield
  | cons field fields ih =>
    obtain ⟨other, otherShape, otherAbsent⟩ := field
    rw [fill, List.mapM_cons] at h
    obtain ⟨entry, hentry, h⟩ := Option.bind_eq_some_iff.mp h
    obtain ⟨rest, hrest, h⟩ := Option.bind_eq_some_iff.mp h
    obtain ⟨value, hvalue, rfl⟩ := Option.map_eq_some_iff.mp hentry
    cases h
    rw [List.lookup_cons] at hfield ⊢
    by_cases hname : name = other
    · subst hname
      simp only [beq_self_eq_true, Option.some.injEq, Prod.mk.injEq] at hfield ⊢
      rw [← hfield.2, hvalue]
    · simp only [beq_false_of_ne hname] at hfield ⊢
      exact ih hrest hfield

section Objects

variable {fields : Fields} {members : List Member}

/-- An object with entries that fit is read to its end. -/
theorem Fitting.read_objectText (h : Fitting fields members) (gap : Gap) (rest : List Symbol) :
    (Shape.record fields).read ((objectText (members.map Member.toLabelled) gap).map some ++ rest) =
      (fill (known fields members) fields).elim (.error .wrongData)
        fun entries => .ok (.object entries, rest) :=
  Shape.readRecord_objectText gap h.label h.other
    (fun member hmember shape absent hfield => (h.value member hmember shape absent hfield).finds)
    h.nodup rest

/-- What an object spells has under the name of a field what stands there, or what the field is when
it is missing. -/
theorem Fitting.entry?_of_spells (h : Fitting fields members) {gap : Gap} {value : Value}
    (hspells : Spells (.record fields) value (objectText (members.map Member.toLabelled) gap))
    {name : String} {shape : Shape} {absent : Option Value}
    (hfield : fields.lookup name = some (shape, absent)) :
    value.entry? name = ((known fields members).lookup name).or absent := by
  have hread := hspells.finds [] (by intro c hc; cases hc)
  rw [h.read_objectText] at hread
  cases hall : fill (known fields members) fields with
  | none =>
    rw [hall] at hread
    cases hread
  | some entries =>
    rw [hall] at hread
    cases hread
    exact lookup_of_fill hall hfield

/-- An object up to the name of a further entry. -/
def textToName (members : List Labelled) (gap : Gap) (label : List Char) : List Char :=
  '{' :: commaed true (members.map Labelled.text) ++ ',' :: gap.chars ++ '"' :: label ++ ['"']

/-- A known name that comes up again is refused, whatever is behind it. -/
theorem Fitting.read_again (h : Fitting fields members) {name : String}
    (hname : name ∈ (known fields members).map Prod.fst) {label : List Char}
    (hlabel : SpellsText label name.toList) (gap : Gap) (rest : List Symbol) :
    (Shape.record fields).read
        ((textToName (members.map Member.toLabelled) gap label).map some ++ rest) =
      .error .wrongData := by
  -- What stands behind the entries.
  let tail : List Symbol :=
    some ',' :: (gap.chars.map some ++ some '"' :: (label.map some ++ some '"' :: rest))
  have hcomma : dropBlank tail = tail := dropBlank_cons (by decide) _
  obtain ⟨fuel, behind, hentries, hbehind⟩ := Shape.readEntries_opened h.label h.other
    (fun member hmember shape absent hfield => (h.value member hmember shape absent hfield).finds)
    h.nodup (show EndsValue tail from endsValue_cons (Or.inl rfl) _)
  have hmembers : members.isEmpty = false := by
    cases members with
    | nil => simp [known] at hname
    | cons member members => rfl
  have hnext : Shape.nextEntry false behind = .ok (some (label.map some ++ some '"' :: rest)) := by
    rw [Shape.nextEntry, hbehind, hcomma]
    simp [tail, dropBlank_gap, dropBlank_cons (show isBlank (some '"') = false by decide)]
  have htext : (textToName (members.map Member.toLabelled) gap label).map some ++ rest =
      some '{' ::
        ((commaed true ((members.map Member.toLabelled).map Labelled.text)).map some ++ tail) := by
    simp [textToName, tail]
  obtain ⟨field, hfield⟩ : ∃ field, fields.lookup name = some field := by
    obtain ⟨entry, hentry, rfl⟩ := List.mem_map.mp hname
    obtain ⟨member, hmember, rfl⟩ := List.mem_map.mp hentry
    exact Option.isSome_iff_exists.mp (List.mem_filter.mp hmember).2
  have hfound : ((known fields members).lookup name).isSome = true := by
    obtain ⟨entry, hentry, rfl⟩ := List.mem_map.mp hname
    exact List.lookup_isSome_iff.mpr ⟨entry, hentry, by simp⟩
  rw [htext, Shape.read, Shape.readRecord, dropBlank_cons (by decide)]
  simp only [bind, Except.bind, hentries, hmembers]
  rw [Shape.readEntries, hnext]
  simp [bind, Except.bind, text_spelled hlabel, String.ofList_toList, Shape.find?_fieldReaders,
    hfield, hfound, throw, throwThe, MonadExceptOf.throw]

end Objects

namespace Record

/-- The symbols of a text and of what stands behind it. -/
theorem symbols_textBytes_append (t : List Char) (raw : List Nat) :
    symbols (textBytes t ++ raw) = t.map some ++ symbols raw := by
  induction t with
  | nil => rfl
  | cons c t ih =>
    rw [textBytes, List.flatMap_cons, List.append_assoc, symbols_charBytes_append, ← textBytes, ih]
    rfl

variable {α : Type} [Record α]

/-- The fields of a type of records. -/
def fieldsOf (α : Type) [Record α] : Fields :=
  match shape α with
  | .record fields => fields
  | _ => []

/-- What a type of records is read from. The text of each record is an object with its fields. From
whatever spells the fields of a record, with white space around it, that record is read. In an
object it does not matter in which order the known entries stand and what stands between them. A
known name that comes up again is refused, whatever is behind it, and so is an object in which a
name is missing. -/
structure ReadsForms (α : Type) [Record α] : Prop where
  shape_eq : shape α = .record (fieldsOf α)
  own : ∀ a : α, ∃ members entries,
    print a = objectText (members.map Member.toLabelled) .none ∧ Fitting (fieldsOf α) members ∧
      fill (known (fieldsOf α) members) (fieldsOf α) = some entries ∧
        read? (.object entries) = some a
  form : ∀ (a : α) (value : Value) (document : Padded), read? value = some a →
    Spells (.record (fieldsOf α)) value document.value →
      parse (symbols (textBytes document.text)) = .ok a
  order : ∀ (members others : List Member) (gap gap' : Gap) (document other : Padded),
    document.value = objectText (members.map Member.toLabelled) gap →
      other.value = objectText (others.map Member.toLabelled) gap' →
        Fitting (fieldsOf α) members → Fitting (fieldsOf α) others →
          (known (fieldsOf α) members).Perm (known (fieldsOf α) others) →
            (parse (symbols (textBytes document.text)) : Except Fault α) =
              parse (symbols (textBytes other.text))
  again : ∀ (before : Gap) (members : List Member) (gap : Gap) (name : String) (label : List Char)
    (raw : List Nat), Fitting (fieldsOf α) members →
      name ∈ (known (fieldsOf α) members).map Prod.fst → SpellsText label name.toList →
        (parse (symbols (textBytes (before.chars ++
          textToName (members.map Member.toLabelled) gap label) ++ raw)) : Except Fault α) =
            .error .wrongData
  missing : ∀ (before : Gap) (members : List Member) (gap : Gap) (name : String)
    (fieldShape : Shape) (raw : List Nat), Fitting (fieldsOf α) members →
      (name, fieldShape, none) ∈ fieldsOf α → name ∉ (known (fieldsOf α) members).map Prod.fst →
        (parse (symbols (textBytes (before.chars ++
          objectText (members.map Member.toLabelled) gap) ++ raw)) : Except Fault α) =
            .error .wrongData

/-- A text with white space in front is refused if its value is. -/
theorem parse_of_read_error (before : Gap) {s : List Char} {raw : List Nat} {fault : Fault}
    (h : (shape α).read (s.map some ++ symbols raw) = .error fault) :
    (parse (symbols (textBytes (before.chars ++ s) ++ raw)) : Except Fault α) = .error fault := by
  rw [symbols_textBytes_append, List.map_append, List.append_assoc, parse, Shape.parse,
    (shape α).skipsBlank.gap, h]
  rfl

/-- A whole text, with white space around it, is read as its value is. -/
theorem parse_padded {document : Padded} (result : Except Fault Value)
    (h : ∀ rest, EndsValue rest → (shape α).read (document.value.map some ++ rest) =
      result.map (·, rest)) :
    (parse (symbols (textBytes document.text)) : Except Fault α) =
      result.bind fun value => (read? value).elim (.error .wrongData) .ok := by
  have hafter : EndsValue (document.after.chars.map some ++ []) :=
    endsValue_gap document.after (by intro c hc; cases hc)
  have hend : dropBlank (document.after.chars.map some ++ []) = [] := dropBlank_gap _ _
  have hread := h _ hafter
  rw [← List.append_nil (textBytes document.text), symbols_textBytes_append, Padded.text,
    List.map_append, List.map_append, List.append_assoc, List.append_assoc, parse, Shape.parse,
    (shape α).skipsBlank.gap]
  simp only [show symbols [] = [] by rw [symbols], hread]
  cases result with
  | error fault => rfl
  | ok value =>
    simp only [Except.map, bind, Except.bind, hend, List.isEmpty_nil, if_true, pure, Except.pure]
    cases (read? value : Option α) <;> rfl

/-- A whole object with entries that fit is read as the record that the fields make of the known
ones. -/
theorem parse_objectText (hshape : shape α = .record (fieldsOf α)) {members : List Member}
    {gap : Gap} {document : Padded}
    (hdocument : document.value = objectText (members.map Member.toLabelled) gap)
    (hfits : Fitting (fieldsOf α) members) :
    (parse (symbols (textBytes document.text)) : Except Fault α) =
      (fill (known (fieldsOf α) members) (fieldsOf α)).elim (.error .wrongData)
        fun entries => (read? (.object entries)).elim (.error .wrongData) .ok := by
  rw [parse_padded ((fill (known (fieldsOf α) members) (fieldsOf α)).elim
    (.error .wrongData) fun entries => .ok (.object entries)) fun rest _ => ?_]
  · cases fill (known (fieldsOf α) members) (fieldsOf α) <;> rfl
  · rw [hshape, hdocument, hfits.read_objectText]
    cases fill (known (fieldsOf α) members) (fieldsOf α) <;> rfl

/-- Records that fit their shape are read from all their forms. -/
theorem Fitted.readsForms (h : Fitted α) (hshape : shape α = .record (fieldsOf α)) :
    ReadsForms α := by
  refine ⟨hshape, ?_, ?_, ?_, ?_, ?_⟩
  · intro a
    obtain ⟨found, hfound⟩ := h
    obtain ⟨hfits, hread⟩ := hfound a
    rw [hshape] at hfits
    obtain ⟨members, entries, hprint, hmembers, hall, hentries⟩ := hfits.exists_members
    exact ⟨members, entries, hprint, hmembers, hall, hentries ▸ hread⟩
  · intro a value document ha hspells
    rw [parse_padded (.ok value) fun rest hrest => ?_]
    · simp [ha, Except.bind]
    · rw [hshape]
      exact hspells.finds rest hrest
  · intro members others gap gap' document other hdocument hother hfits hfits' hperm
    rw [parse_objectText hshape hdocument hfits, parse_objectText hshape hother hfits',
      fill_perm hperm hfits.nodup]
  · intro before members gap name label raw hfits hname hlabel
    apply parse_of_read_error
    rw [hshape]
    exact hfits.read_again hname hlabel gap _
  · intro before members gap name fieldShape raw hfits hfield hname
    apply parse_of_read_error
    rw [hshape, hfits.read_objectText, fill_eq_none hfield hname]
    rfl

end Record

end Folio.Json
