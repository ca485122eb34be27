import Folio.Proofs.Yaml.Mapping

/-!
# Reading the tokens of a mapping

The tokens of a mapping of short entries are read in their order: a key and its value for each
entry, and the items of a sequence up to its end, which only an indented sequence has a token for.
The keys must differ, and the map has the entries in their order.
-/

namespace Folio.Yaml

namespace Reading

/-- A step reads some tokens as a value and leaves others, and has no other effect. -/
def Gives {α : Type} (step : Step α) (tokens : List Token) (x : α) (rest : List Token) : Prop :=
  ∀ r : Reading, step.run { r with tokens } = some (x, { r with tokens := rest })

/-- What is done with a value that has been read. -/
theorem Gives.run_bind {α β : Type} {step : Step α} {tokens rest : List Token} {x : α}
    (h : Gives step tokens x rest) (r : Reading) (f : α × Reading → Option β) :
    (step.run { r with tokens }).bind f = f (x, { r with tokens := rest }) := by
  rw [h r, Option.bind_some]

variable {rest : List Token} {fuel : Nat}

/-- The value of a scalar without a tag. -/
def scalarValue (plain : Bool) (text : List Char) : Value :=
  if plain then .ofPlain text else .text text

/-- A scalar is read as its value. -/
theorem gives_scalar (block indentless plain : Bool) (text : List Char) :
    Gives (node (fuel + 1) block indentless) (.scalar plain text :: rest) (scalarValue plain text)
      rest := by
  intro r
  cases plain <;> rfl

/-- Where no hyphen stands there is no item that is not indented. -/
theorem gives_noItem (hrest : rest.head? ≠ some .blockEntry) :
    Gives (indentlessItems (fuel + 1)) rest [] rest := by
  intro r
  cases rest with
  | nil => rfl
  | cons token rest => cases token <;> first | rfl | exact absurd rfl hrest

/-- Items are read one after another if one is read in front of others, and none behind the last. -/
theorem gives_items {items : Nat → Step (List Value)} {behind : List Token}
    (hend : ∀ fuel, Gives (items (fuel + 1)) behind [] rest)
    (hitem : ∀ (fuel : Nat) (text : List Char) (tokens : List Token) (values : List Value),
      Gives (items (fuel + 1)) tokens values rest →
        Gives (items (fuel + 2)) (Written.itemTokens text ++ tokens) (.text text :: values) rest)
    {texts : List (List Char)} (hfuel : texts.length < fuel) :
    Gives (items fuel) (texts.flatMap Written.itemTokens ++ behind) (texts.map .text) rest := by
  induction texts generalizing fuel with
  | nil =>
    obtain ⟨fuel, rfl⟩ := Nat.exists_eq_succ_of_ne_zero (Nat.ne_zero_of_lt hfuel)
    exact hend fuel
  | cons text texts ih =>
    obtain ⟨fuel, rfl⟩ := Nat.exists_eq_add_of_lt hfuel
    rw [List.length_cons, show texts.length + 1 + fuel + 1 = texts.length + fuel + 2 by omega,
      List.flatMap_cons, List.append_assoc]
    exact hitem _ text _ _ (ih (by omega))

/-- Items that are not indented are read up to what is no item. -/
theorem gives_indentlessItems {texts : List (List Char)} (hfuel : texts.length < fuel)
    (hrest : rest.head? ≠ some .blockEntry) :
    Gives (indentlessItems fuel) (texts.flatMap Written.itemTokens ++ rest) (texts.map .text)
      rest := by
  refine gives_items (fun _ => gives_noItem hrest) (fun fuel text tokens values h r => ?_) hfuel
  exact h.run_bind r fun p => some (.text text :: p.1, p.2)

/-- Items that are indented are read up to the end of the sequence. -/
theorem gives_blockItems {texts : List (List Char)} (hfuel : texts.length < fuel) :
    Gives (blockItems fuel) (texts.flatMap Written.itemTokens ++ .blockEnd :: rest)
      (texts.map .text) rest := by
  refine gives_items (fun _ _ => rfl) (fun fuel text tokens values h r => ?_) hfuel
  exact h.run_bind r fun p => some (.text text :: p.1, p.2)

/-- There are as many items as hyphens. -/
theorem length_itemTokens (texts : List (List Char)) :
    (texts.flatMap Written.itemTokens).length = 2 * texts.length := by
  induction texts with
  | nil => rfl
  | cons text texts ih =>
    simp only [List.flatMap_cons, List.length_append, ih, Written.itemTokens, List.length_cons,
      List.length_nil]
    omega

/-- A value behind a key is read. -/
theorem gives_value (written : Written) (hfuel : written.tokens.length < fuel)
    (hrest : rest.head? ≠ some .blockEntry) :
    Gives (node fuel true true) (written.tokens ++ rest) written.value rest := by
  obtain ⟨fuel, rfl⟩ := Nat.exists_eq_succ_of_ne_zero (Nat.ne_zero_of_lt hfuel)
  cases written with
  | quoted text => exact gives_scalar true true false text
  | plain word words => exact gives_scalar true true true _
  | items margin first more =>
    have hlength := length_itemTokens (first :: more)
    rw [List.length_cons] at hlength
    rw [Written.tokens] at hfuel ⊢
    intro r
    split
    case isTrue hmargin =>
      rw [if_pos hmargin] at hfuel
      have hitems : (first :: more).length < fuel := by
        rw [List.length_cons]
        omega
      exact (gives_indentlessItems hitems hrest).run_bind r fun p => some (Value.list p.1, p.2)
    case isFalse hmargin =>
      rw [if_neg hmargin] at hfuel
      have hitems : (first :: more).length < fuel := by
        simp only [List.length_cons, List.cons_append, List.length_append, List.length_nil] at *
        omega
      rw [List.cons_append, List.cons_append, List.append_assoc, List.singleton_append]
      exact (gives_blockItems hitems).run_bind r fun p => some (Value.list p.1, p.2)

/-- The keys and values of entries, in turn. -/
def nodes (entries : List Entry) : List Value :=
  entries.flatMap fun entry => [.text entry.key, entry.written.value]

/-- A key and its colon come before the value and the entries behind it. -/
theorem blockPairs_cons {token : Token} {more : List Token} (key : List Char)
    (hvalue : token ≠ .key ∧ token ≠ .value ∧ token ≠ .blockEnd) (r : Reading) :
    (blockPairs (fuel + 2)).run
        { r with tokens := .key :: .scalar true key :: .value :: token :: more } =
      ((node (fuel + 1) true true).run { r with tokens := token :: more }).bind fun (value, r) =>
        ((blockPairs (fuel + 1)).run r).bind fun (more, r) =>
          some (Value.ofPlain key :: value :: more, r) := by
  obtain ⟨hkey, hcolon, hend⟩ := hvalue
  cases token <;> first | rfl | contradiction

/-- What is written behind a key begins with a token of its own. -/
theorem exists_tokens_eq_cons (written : Written) :
    ∃ token more, written.tokens = token :: more ∧
      (token ≠ .key ∧ token ≠ .value ∧ token ≠ .blockEnd) := by
  cases written with
  | quoted text => exact ⟨_, _, rfl, by simp⟩
  | plain word words => exact ⟨_, _, rfl, by simp⟩
  | items margin first more =>
    rw [Written.tokens]
    split
    · exact ⟨_, _, rfl, by simp⟩
    · exact ⟨_, _, rfl, by simp⟩

/-- Behind an entry no item of its sequence is left. -/
theorem head?_entries (entries : List Entry) (rest : List Token) :
    (entries.flatMap Entry.tokens ++ .blockEnd :: rest).head? ≠ some .blockEntry := by
  cases entries <;> simp [Entry.tokens]

/-- The entries of a mapping are read in their order. -/
theorem gives_blockPairs {entries : List Entry} (hsound : ∀ e ∈ entries, e.IsSound)
    (hfuel : (entries.flatMap Entry.tokens).length < fuel) :
    Gives (blockPairs fuel) (entries.flatMap Entry.tokens ++ .blockEnd :: rest) (nodes entries)
      rest := by
  induction entries generalizing fuel with
  | nil =>
    obtain ⟨fuel, rfl⟩ := Nat.exists_eq_succ_of_ne_zero (Nat.ne_zero_of_lt hfuel)
    exact fun r => rfl
  | cons entry entries ih =>
    obtain ⟨hentry, hmore⟩ := List.forall_mem_cons.mp hsound
    have hlength :
        entry.written.tokens.length + (entries.flatMap Entry.tokens).length + 3 < fuel := by
      simp only [List.flatMap_cons, List.length_append, Entry.tokens, List.length_cons] at hfuel
      omega
    obtain ⟨fuel, rfl⟩ : ∃ n, fuel = n + 2 := ⟨fuel - 2, by omega⟩
    intro r
    have hvalue := gives_value entry.written
      (show entry.written.tokens.length < fuel + 1 by omega) (head?_entries entries rest) r
    have hpairs :=
      ih hmore (show (entries.flatMap Entry.tokens).length < fuel + 1 by omega) r
    obtain ⟨token, more, htokens, hne⟩ := exists_tokens_eq_cons entry.written
    rw [List.flatMap_cons, List.append_assoc, Entry.tokens, List.cons_append, List.cons_append,
      List.cons_append]
    rw [htokens, List.cons_append] at hvalue ⊢
    rw [blockPairs_cons entry.key hne r, hvalue, Option.bind_some]
    simp only
    rw [hpairs, Option.bind_some, hentry.named]
    rfl

/-- A key that is not known is in the map with its value. -/
theorem entries?_text (key : List Char) (value : Value) (known : List (Value × Value))
    (more : List Value) (hnew : ∀ pair ∈ known, pair.1.same (.text key) = false) :
    Value.entries? none known (.text key :: value :: more) =
      Value.entries? none (known ++ [(.text key, value)]) more := by
  have hfresh : (known.any fun pair => pair.1.same (.text key)) = false := by
    rw [List.any_eq_false]
    intro pair hpair
    rw [hnew pair hpair]
    exact Bool.false_ne_true
  rw [Value.entries?, Value.entries?, hfresh, if_neg Bool.false_ne_true]
  rintro ⟨⟩

/-- Keys that differ are all in the map. -/
theorem entries?_nodes {entries : List Entry} (hdistinct : (entries.map Entry.key).Nodup)
    (known : List (Value × Value))
    (hknown : ∀ e ∈ entries, ∀ pair ∈ known, pair.1.same (.text e.key) = false) :
    Value.entries? none known (nodes entries) =
      some (known ++ entries.map fun e => (.text e.key, e.written.value)) := by
  induction entries generalizing known with
  | nil => simp [nodes, Value.entries?]
  | cons entry entries ih =>
    rw [List.map_cons, List.nodup_cons] at hdistinct
    obtain ⟨hnew, hrest⟩ := hdistinct
    obtain ⟨hfirst, hmore⟩ := List.forall_mem_cons.mp hknown
    have hlater : ∀ e ∈ entries, ∀ pair ∈ known ++ [(.text entry.key, entry.written.value)],
        pair.1.same (.text e.key) = false := by
      intro e he pair hpair
      rcases List.mem_append.mp hpair with hpair | hpair
      · exact hmore e he pair hpair
      · rw [List.mem_singleton.mp hpair, Value.same, decide_eq_false_iff_not]
        intro heq
        exact hnew (heq ▸ List.mem_map_of_mem he)
    rw [nodes, List.flatMap_cons, List.cons_append, List.cons_append, List.nil_append,
      entries?_text _ _ _ _ hfirst, ← nodes, ih hrest _ hlater]
    simp

/-- A mapping of entries with different keys is read as their map. -/
theorem gives_mapping {entries : List Entry} (hsound : ∀ e ∈ entries, e.IsSound)
    (hdistinct : (entries.map Entry.key).Nodup)
    (hfuel : (entries.flatMap Entry.tokens).length < fuel) :
    Gives (node (fuel + 1) true false)
      (.blockMappingStart :: (entries.flatMap Entry.tokens ++ .blockEnd :: rest))
      (.map (entries.map fun e => (.text e.key, e.written.value))) rest := by
  intro r
  have hmap (r : Reading) : (mapOf (nodes entries)).run r =
      some (.map (entries.map fun e => (.text e.key, e.written.value)), r) := by
    rw [mapOf, entries?_nodes hdistinct [] (by simp)]
    rfl
  refine ((gives_blockPairs hsound hfuel).run_bind r fun (nodes, r) =>
    ((mapOf nodes).run r).bind some).trans ?_
  simp only [hmap, Option.bind_some]

/-- What is done behind a document that was not marked. -/
def finish (fuel : Nat) (value : Value) : Step (List Value) := do
  let ended ← accept .documentEnd
  modify fun r => { r with handles := [] }
  if !ended && isDirective (← peek) then failure
  return value :: (← documents fuel ended)

/-- The tokens of a mapping are one document, whose value is the map of the entries. -/
theorem documents_mapping {entries : List Entry} (hsound : ∀ e ∈ entries, e.IsSound)
    (hdistinct : (entries.map Entry.key).Nodup)
    (hfuel : (entries.flatMap Entry.tokens).length < fuel) :
    (documents (fuel + 2) true).run
        ⟨.blockMappingStart :: entries.flatMap Entry.tokens ++ [.blockEnd], [], [], 0, []⟩ =
      some ([.map (entries.map fun e => (.text e.key, e.written.value))], ⟨[], [], [], 0, []⟩) :=
  (gives_mapping hsound hdistinct hfuel).run_bind ⟨[], [], [], 0, []⟩
    fun (value, r) => (finish (fuel + 1) value).run r

end Reading

/-- A mapping of short entries with different keys is read as the map of these entries. -/
theorem Value.ofText?_lines {entry : Entry} {more : List Entry}
    (hsound : ∀ e ∈ entry :: more, e.IsSound) (hend : '\x00' ∉ Entry.lines (entry :: more))
    (hdistinct : ((entry :: more).map Entry.key).Nodup) :
    Value.ofText? (Entry.lines (entry :: more)) =
      some (.map ((entry :: more).map fun e => (.text e.key, e.written.value))) := by
  rw [Value.ofText?, Token.ofText?_lines hsound hend]
  generalize entry :: more = entries at *
  have hfuel : (entries.flatMap Entry.tokens).length <
      2 * (Token.blockMappingStart :: entries.flatMap Entry.tokens ++ [Token.blockEnd]).length +
        2 := by
    simp only [List.cons_append, List.length_cons, List.length_append]
    omega
  have hread := Reading.documents_mapping hsound hdistinct hfuel
  simp only [Option.bind_eq_bind, Option.bind_some]
  rw [hread]
  rfl

end Folio.Yaml
