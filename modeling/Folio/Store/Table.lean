/-!
# Tables

A table holds one value for each of its keys. Putting a value replaces the one that was there, and
what a table says of a key depends on the last change to that key only.
-/

namespace Folio.Store

/-- Values by text keys, no key of which has two. -/
structure Table (α : Type) where
  entries : List (String × α)
  nodup_keys : (entries.map Prod.fst).Nodup
  deriving Repr

namespace Table

variable {α : Type}

/-- The table without keys. -/
def empty : Table α := ⟨[], List.nodup_nil⟩

instance : Inhabited (Table α) := ⟨empty⟩

/-- The value of a key. -/
def get? (t : Table α) (key : String) : Option α := t.entries.lookup key

/-- Whether a key has a value. -/
def has (t : Table α) (key : String) : Bool := (t.get? key).isSome

/-- The table without a key. -/
def drop (t : Table α) (key : String) : Table α where
  entries := t.entries.filter fun entry => entry.1 ≠ key
  nodup_keys := t.nodup_keys.sublist (List.filter_sublist.map Prod.fst)

/-- A dropped key is in no entry. -/
theorem key_not_mem_drop (t : Table α) (key : String) :
    key ∉ (t.drop key).entries.map Prod.fst := by
  simp [drop]

/-- The table in which a key has a value. -/
def put (t : Table α) (key : String) (value : α) : Table α where
  entries := (key, value) :: (t.drop key).entries
  nodup_keys := List.nodup_cons.mpr ⟨t.key_not_mem_drop key, (t.drop key).nodup_keys⟩

/-- The keys in order. -/
def keys (t : Table α) : List String :=
  (t.entries.map Prod.fst).mergeSort fun a b => a ≤ b

/-- The table without keys says nothing. -/
@[simp] theorem get?_empty (key : String) : (empty : Table α).get? key = none := rfl

/-- The entries of a table are what it says of its keys. -/
theorem mem_entries_iff (t : Table α) (key : String) (value : α) :
    (key, value) ∈ t.entries ↔ t.get? key = some value := by
  obtain ⟨entries, hnodup⟩ := t
  simp only [get?]
  induction entries with
  | nil => simp
  | cons entry rest ih =>
    obtain ⟨other, held⟩ := entry
    simp only [List.map_cons, List.nodup_cons] at hnodup
    by_cases hkey : key = other
    · subst key
      have hrest : (other, value) ∉ rest := fun hmem => hnodup.1 (List.mem_map_of_mem hmem)
      simp [hrest, eq_comm]
    · have hne : (key == other) = false := by simpa using hkey
      simp [List.lookup_cons, hne, hkey, ih hnodup.2]

/-- A dropped key has no value. -/
@[simp] theorem get?_drop_self (t : Table α) (key : String) : (t.drop key).get? key = none := by
  rw [Option.eq_none_iff_forall_ne_some]
  intro value hvalue
  have hmem := ((t.drop key).mem_entries_iff key value).mpr hvalue
  exact t.key_not_mem_drop key (List.mem_map_of_mem hmem)

/-- Dropping a key does not change the others. -/
theorem get?_drop_of_ne (t : Table α) {key other : String} (hne : other ≠ key) :
    (t.drop key).get? other = t.get? other := by
  apply Option.ext
  intro value
  rw [← mem_entries_iff, ← mem_entries_iff]
  simp [drop, hne]

/-- A key has the value that was put last. -/
@[simp] theorem get?_put_self (t : Table α) (key : String) (value : α) :
    (t.put key value).get? key = some value := by
  simp [get?, put]

/-- Putting a value does not change the other keys. -/
theorem get?_put_of_ne (t : Table α) {key other : String} (value : α) (hne : other ≠ key) :
    (t.put key value).get? other = t.get? other := by
  have hbeq : (other == key) = false := by simpa using hne
  rw [← t.get?_drop_of_ne hne]
  simp [get?, put, List.lookup_cons, hbeq]

/-- What a table says after a put. -/
theorem get?_put (t : Table α) (key other : String) (value : α) :
    (t.put key value).get? other = if other = key then some value else t.get? other := by
  by_cases hkey : other = key
  · subst other
    rw [if_pos rfl, get?_put_self]
  · rw [if_neg hkey, get?_put_of_ne t value hkey]

/-- What is in a table after a drop was in it before. -/
theorem get?_of_get?_drop {t : Table α} {key other : String} {value : α}
    (h : (t.drop key).get? other = some value) : t.get? other = some value := by
  by_cases hkey : other = key
  · subst other
    simp at h
  · rwa [t.get?_drop_of_ne hkey] at h

end Table

end Folio.Store
