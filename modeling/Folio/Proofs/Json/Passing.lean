import Folio.Proofs.Json.Number

/-!
# Values that are passed over

Every JSON value is passed over, however deep it is: the frames that are open are kept in a list,
and every step goes on in the text. An item and an entry are passed in the same way behind what
stands in front of their values, so lists and objects are passed by one argument over their parts.
-/

namespace Folio.Json

open Folio.Text (Symbol)

/-- A word is passed. -/
theorem passWord_append (word : List Char) (rest : List Symbol) :
    passWord word (word.map some ++ rest) = .ok rest := by
  induction word with
  | nil => rfl
  | cons c word ih =>
    rw [List.map_cons, List.cons_append, passWord, if_pos rfl]
    exact ih

/-- A text begins a value: with a visible character that ends neither a list nor an object. -/
def StartsValue (s : List Char) : Prop :=
  ∃ c more, s = c :: more ∧ isBlank (some c) = false ∧ c ≠ ']' ∧ c ≠ '}'

/-- A digit is visible and ends neither a list nor an object. -/
theorem startsValue_of_isDigit {c : Char} (h : c.isDigit = true) (more : List Char) :
    StartsValue (c :: more) := by
  refine ⟨c, more, rfl, ?_, ?_, ?_⟩
  · rw [isBlank]
    simp only [Bool.or_eq_false_iff, decide_eq_false_iff_not, Option.some.injEq]
    refine ⟨⟨⟨?_, ?_⟩, ?_⟩, ?_⟩ <;> rintro rfl <;> revert h <;> decide
  all_goals rintro rfl; revert h; decide

/-- A value is passed in one step: it is no list and no object. -/
def PassesScalar (s : List Char) : Prop :=
  ∃ c more, s = c :: more ∧ c ≠ '[' ∧ c ≠ '{' ∧
    ∀ rest, EndsValue rest → passScalar (some c) (more.map some ++ rest) = .ok rest

/-- A number begins with a sign or a digit. -/
theorem IsNumber.exists_eq_cons {s : List Char} (h : IsNumber s) :
    ∃ c more, s = c :: more ∧ (c = '-' ∨ c.isDigit = true) := by
  obtain ⟨hsign, hdigits, -, -, -⟩ := h
  obtain ⟨c, more, rfl⟩ := List.exists_cons_of_ne_nil hdigits.1
  rcases hsign with rfl | rfl
  · exact ⟨c, _, rfl, Or.inr (hdigits.2 c List.mem_cons_self)⟩
  · exact ⟨'-', _, rfl, Or.inl rfl⟩

/-- A number begins a value. -/
theorem IsNumber.startsValue {s : List Char} (h : IsNumber s) : StartsValue s := by
  obtain ⟨c, more, rfl, rfl | hdigit⟩ := h.exists_eq_cons
  · exact ⟨'-', more, rfl, by decide, by decide, by decide⟩
  · exact startsValue_of_isDigit hdigit more

/-- A number is passed in one step. -/
theorem IsNumber.passesScalar {s : List Char} (h : IsNumber s) : PassesScalar s := by
  obtain ⟨c, more, rfl, hc⟩ := h.exists_eq_cons
  have hne {d : Char} (hd : d ≠ '-') (hdigit : d.isDigit = false) : c ≠ d := by
    rintro rfl
    rcases hc with rfl | hc
    · exact hd rfl
    · rw [hc] at hdigit
      cases hdigit
  refine ⟨c, more, rfl, hne (by decide) (by decide), hne (by decide) (by decide), ?_⟩
  intro rest hrest
  have hpass := passNumber_append h hrest
  rw [List.map_cons, List.cons_append] at hpass
  have hbegins : (some c = some '-' || isDigit (some c)) = true := by
    rcases hc with rfl | hc <;> simp [isDigit, *]
  rw [passScalar]
  · rw [if_pos hbegins, hpass]
  all_goals
    intro heq
    exact hne (by decide) (by decide) (Option.some.inj heq)

/-- A value is passed in at most two steps for each of its characters. -/
def PassesValue (s : List Char) : Prop :=
  ∃ n ≤ 2 * s.length, ∀ fuel frames rest, EndsValue rest →
    passFrom (fuel + n) .value frames (s.map some ++ rest) = passFrom fuel .after frames rest

/-- An item or an entry of a frame is told from its end, and is passed in at most two steps for each
of its characters and one more. -/
structure PassesPart (frame : Frame) (part : List Char) : Prop where
  starts : ∀ rest, ∃ c more, dropBlank (part.map some ++ rest) = c :: more ∧ c ≠ frame.closing
  passes : ∃ n ≤ 2 * part.length + 1, ∀ fuel frames rest, EndsValue rest →
    passFrom (fuel + n) .member (frame :: frames) (part.map some ++ rest) =
      passFrom fuel .after (frame :: frames) rest

/-- A scalar is passed. -/
theorem PassesScalar.passesValue {s : List Char} (h : PassesScalar s) (hstarts : StartsValue s) :
    PassesValue s := by
  obtain ⟨c, more, rfl, hlist, hobject, hpass⟩ := h
  obtain ⟨_, _, heq, hblank, -, -⟩ := hstarts
  cases heq
  refine ⟨1, by simp only [List.length_cons]; omega, fun fuel frames rest hrest => ?_⟩
  rw [List.map_cons, List.cons_append, passFrom, dropBlank_cons hblank]
  simp [hlist, hobject, hpass rest hrest]

/-- White space in front of a value does not matter. -/
theorem passFrom_value_gap (fuel : Nat) (frames : List Frame) (gap : Gap) (s : List Symbol) :
    passFrom fuel .value frames (gap.chars.map some ++ s) = passFrom fuel .value frames s := by
  cases fuel with
  | zero => rfl
  | succ fuel => rw [passFrom, passFrom, dropBlank_gap]

/-- White space behind an item or an entry does not matter. -/
theorem passFrom_after_gap (fuel : Nat) (frame : Frame) (frames : List Frame) (gap : Gap)
    (s : List Symbol) :
    passFrom fuel .after (frame :: frames) (gap.chars.map some ++ s) =
      passFrom fuel .after (frame :: frames) s := by
  cases fuel with
  | zero => rfl
  | succ fuel => rw [passFrom, passFrom, dropBlank_gap]

/-- White space in front of an item or an entry does not matter. -/
theorem passFrom_member_dropBlank (fuel : Nat) (frame : Frame) (frames : List Frame)
    (s : List Symbol) :
    passFrom fuel .member (frame :: frames) (dropBlank s) =
      passFrom fuel .member (frame :: frames) s := by
  cases fuel with
  | zero => rfl
  | succ fuel =>
    cases frame with
    | list =>
      cases fuel with
      | zero => rfl
      | succ fuel => simp only [passFrom, dropBlank_dropBlank]
    | object => simp only [passFrom, passName, dropBlank_dropBlank]

/-- A padded value begins, behind white space, with a character that ends no list. -/
theorem Padded.exists_dropBlank_eq_cons {item : Padded} (hstarts : StartsValue item.value)
    (rest : List Symbol) :
    ∃ c more, dropBlank (item.text.map some ++ rest) = c :: more ∧ c ≠ some ']' := by
  obtain ⟨before, value, after⟩ := item
  obtain ⟨c, more, rfl, hblank, hend, -⟩ := hstarts
  refine ⟨some c, more.map some ++ (after.chars.map some ++ rest), ?_, by simpa using hend⟩
  simp [Padded.text, dropBlank_gap, dropBlank_cons hblank]

/-- A padded value is passed as an item if the value is passed. -/
theorem Padded.passesPart {item : Padded} (hstarts : StartsValue item.value)
    (h : PassesValue item.value) : PassesPart .list item.text := by
  refine ⟨Padded.exists_dropBlank_eq_cons hstarts, ?_⟩
  obtain ⟨before, value, after⟩ := item
  obtain ⟨n, hn, hpass⟩ := h
  refine ⟨n + 1, ?_, fun fuel frames rest hrest => ?_⟩
  · simp only [Padded.text, List.length_append] at hn ⊢
    omega
  · rw [← Nat.add_assoc, passFrom, Padded.text, List.map_append, List.map_append,
      List.append_assoc, List.append_assoc, passFrom_value_gap,
      hpass _ _ _ (endsValue_gap after hrest), passFrom_after_gap]

/-- The name and the colon of an entry are passed. -/
theorem passName_append {member : Labelled} (hlabel : IsText member.label) (rest : List Symbol) :
    passName (member.text.map some ++ rest) = .ok (member.item.text.map some ++ rest) := by
  rw [member.text_append, passName, dropBlank_gap, dropBlank_cons (by decide)]
  simp only [ne_eq, not_true_eq_false, if_false, passText_append hlabel]
  rw [dropBlank_gap, dropBlank_cons (by decide)]
  simp

/-- A labelled value is passed as an entry if the value is passed. -/
theorem Labelled.passesPart {member : Labelled} (hlabel : IsText member.label)
    (h : PassesValue member.item.value) : PassesPart .object member.text := by
  constructor
  · intro rest
    rw [member.text_append, dropBlank_gap, dropBlank_cons (by decide)]
    exact ⟨_, _, rfl, by decide⟩
  · obtain ⟨n, hn, hpass⟩ := h
    refine ⟨n + 1, ?_, fun fuel frames rest hrest => ?_⟩
    · simp only [Labelled.text, Padded.text, List.length_append, List.length_cons] at hn ⊢
      omega
    · rw [← Nat.add_assoc, passFrom, passName_append hlabel]
      simp only
      rw [Padded.text, List.map_append, List.map_append,
        List.append_assoc, List.append_assoc, passFrom_value_gap,
        hpass _ _ _ (endsValue_gap _ hrest), passFrom_after_gap]

/-- The parts behind the first one are passed. -/
theorem passFrom_commaed {frame : Frame} {parts : List (List Char)}
    (h : ∀ part ∈ parts, PassesPart frame part) :
    ∃ n ≤ 2 * (commaed false parts).length, ∀ fuel frames rest, EndsValue rest →
      passFrom (fuel + n) .after (frame :: frames) ((commaed false parts).map some ++ rest) =
        passFrom fuel .after (frame :: frames) rest := by
  induction parts with
  | nil => exact ⟨0, Nat.zero_le _, fun _ _ _ _ => rfl⟩
  | cons part parts ih =>
    obtain ⟨n, hn, hpart⟩ := (h part List.mem_cons_self).passes
    obtain ⟨m, hm, hparts⟩ := ih fun other hother => h other (List.mem_cons_of_mem _ hother)
    refine ⟨m + n + 1, ?_, fun fuel frames rest hrest => ?_⟩
    · simp only [commaed, Bool.false_eq_true, if_false, List.length_append, List.length_cons]
      omega
    · rw [commaed, if_neg Bool.false_ne_true, List.cons_append, List.map_cons, List.cons_append,
        ← Nat.add_assoc, passFrom, dropBlank_cons (by decide)]
      simp only [if_true]
      rw [← Nat.add_assoc, List.map_append, List.append_assoc,
        hpart _ _ _ (endsValue_commaed parts hrest), hparts _ _ _ hrest]

/-- The mark that opens a frame. -/
def Frame.opening : Frame → Char
  | .list => '['
  | .object => '{'

/-- The parts of a frame between its marks. -/
def Frame.text (frame : Frame) (parts : List (List Char)) (gap : Gap) : List Char :=
  frame.opening :: commaed true parts ++ gap.chars ++ [frame.closing.getD ' ']

/-- A frame is passed if its parts are. -/
theorem Frame.passesValue (frame : Frame) {parts : List (List Char)} (gap : Gap)
    (h : ∀ part ∈ parts, PassesPart frame part) : PassesValue (frame.text parts gap) := by
  have hclosing : some (frame.closing.getD ' ') = frame.closing := by cases frame <;> rfl
  have hends (rest : List Symbol) : EndsValue (frame.closing :: rest) := by
    intro c hc
    cases hc
    cases frame <;> simp [Frame.closing]
  have hvisible (rest : List Symbol) :
      dropBlank (frame.closing :: rest) = frame.closing :: rest := by
    cases frame <;> exact dropBlank_cons (by decide) _
  have hmark : frame.closing ≠ some ',' := by cases frame <;> decide
  have hopen (fuel : Nat) (frames : List Frame) (s : List Symbol) :
      passFrom (fuel + 1) .value frames (some frame.opening :: s) =
        passFrom fuel .opened (frame :: frames) s := by
    cases frame <;> rfl
  have htext (rest : List Symbol) : (frame.text parts gap).map some ++ rest =
      some frame.opening :: ((commaed true parts).map some ++
        (gap.chars.map some ++ frame.closing :: rest)) := by
    simp [Frame.text, hclosing]
  cases parts with
  | nil =>
    refine ⟨2, ?_, fun fuel frames rest hrest => ?_⟩
    · simp only [Frame.text, List.length_append, List.length_cons]
      omega
    rw [htext, hopen, commaed, List.map_nil, List.nil_append, passFrom, dropBlank_gap, hvisible]
    simp
  | cons part parts =>
    obtain ⟨n, hn, hpart⟩ := (h part List.mem_cons_self).passes
    obtain ⟨m, hm, hparts⟩ := passFrom_commaed fun other hother =>
      h other (List.mem_cons_of_mem _ hother)
    refine ⟨1 + m + n + 1 + 1, ?_, fun fuel frames rest hrest => ?_⟩
    · simp only [Frame.text, commaed, if_true, List.length_append, List.length_cons,
        List.length_nil]
      omega
    · have hbehind := endsValue_gap gap (hends rest)
      have hfirst := (h part List.mem_cons_self).starts
        ((commaed false parts).map some ++ (gap.chars.map some ++ frame.closing :: rest))
      obtain ⟨c, more, hdrop, hc⟩ := hfirst
      rw [htext, ← Nat.add_assoc, hopen, commaed, if_pos rfl, List.map_append, List.append_assoc,
        ← Nat.add_assoc, passFrom, hdrop]
      simp only [if_neg hc]
      rw [← hdrop, passFrom_member_dropBlank, ← Nat.add_assoc,
        hpart _ _ _ (endsValue_commaed parts hbehind), ← Nat.add_assoc, hparts _ _ _ hbehind,
        passFrom_after_gap, passFrom, hvisible]
      simp [hmark]

/-- A JSON value begins as one. -/
theorem IsValue.startsValue {s : List Char} (h : IsValue s) : StartsValue s := by
  cases h with
  | number h => exact h.startsValue
  | null | yes | no | text | list | object =>
    exact ⟨_, _, rfl, by decide, by decide, by decide⟩

/-- A JSON value is passed, however deep it is. -/
theorem IsValue.passesValue {s : List Char} (h : IsValue s) : PassesValue s := by
  have hword {c : Char} (word : List Char) (hlist : c ≠ '[') (hobject : c ≠ '{')
      (hpass : ∀ rest, passScalar (some c) (word.map some ++ rest) = .ok rest)
      (hstarts : StartsValue (c :: word)) : PassesValue (c :: word) :=
    PassesScalar.passesValue ⟨c, word, rfl, hlist, hobject, fun rest _ => hpass rest⟩ hstarts
  induction h with
  | null =>
    exact hword _ (by decide) (by decide) (passWord_append "ull".toList) IsValue.null.startsValue
  | yes =>
    exact hword _ (by decide) (by decide) (passWord_append "rue".toList) IsValue.yes.startsValue
  | no =>
    exact hword _ (by decide) (by decide) (passWord_append "alse".toList) IsValue.no.startsValue
  | number h => exact h.passesScalar.passesValue h.startsValue
  | @text s h =>
    refine hword (s ++ ['"']) (by decide) (by decide) (fun rest => ?_)
      (IsValue.text h).startsValue
    rw [List.map_append, List.append_assoc]
    exact passText_append h rest
  | list items gap h ih =>
    exact Frame.passesValue .list gap (List.forall_mem_map.mpr fun item hitem =>
      Padded.passesPart (h item hitem).startsValue (ih item hitem))
  | object members gap hlabel h ih =>
    exact Frame.passesValue .object gap (List.forall_mem_map.mpr fun member hmember =>
      Labelled.passesPart (hlabel member hmember) (ih member hmember))

/-- A JSON value with white space in front is passed up to what stands behind it. -/
theorem passValue_append (gap : Gap) {s : List Char} (h : IsValue s) {rest : List Symbol}
    (hrest : EndsValue rest) :
    passValue (gap.chars.map some ++ (s.map some ++ rest)) = .ok rest := by
  obtain ⟨n, hn, hpass⟩ := h.passesValue
  -- The steps that the white space leaves over are not used.
  obtain ⟨fuel, hfuel⟩ : ∃ fuel,
      3 * (gap.chars.map some ++ (s.map some ++ rest)).length + 3 = fuel + 1 + n := by
    refine ⟨3 * (gap.chars.map some ++ (s.map some ++ rest)).length + 2 - n, ?_⟩
    simp only [List.length_append, List.length_map]
    omega
  rw [passValue, hfuel, passFrom_value_gap, hpass _ _ _ hrest, passFrom]
  intro h
  cases h

end Folio.Json
