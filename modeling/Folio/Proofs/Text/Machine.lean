/-!
# Reading machines

A machine reads a text character by character. It has a state, and makes something now and then.
What it does with one text and then with another one is what it does with both together, so a long
text is read part by part. The parts of markup are words, signs and texts.
-/

namespace Folio.Text

/-- What a machine does with one character: its next state, and what it makes. -/
abbrev Machine (σ τ : Type) := σ → Char → σ × List τ

namespace Machine

variable {σ τ : Type}

/-- Read characters one after the other. -/
def run (machine : Machine σ τ) : σ → List Char → σ × List τ
  | state, [] => (state, [])
  | state, c :: rest =>
    ((run machine (machine state c).1 rest).1,
      (machine state c).2 ++ (run machine (machine state c).1 rest).2)

/-- A text takes a machine from one state to another and makes something on the way. -/
def Takes (machine : Machine σ τ) (start : σ) (s : List Char) (last : σ) (made : List τ) : Prop :=
  machine.run start s = (last, made)

variable {machine : Machine σ τ} {start middle last : σ} {s t : List Char} {made more : List τ}

/-- Nothing takes a machine nowhere. -/
theorem Takes.refl (start : σ) : machine.Takes start [] start [] := rfl

/-- One character takes a machine one step. -/
theorem takes_single (machine : Machine σ τ) (start : σ) (c : Char) :
    machine.Takes start [c] (machine start c).1 (machine start c).2 := by
  rw [Takes, run, run, List.append_nil]

/-- A character takes a machine as far as its step does. -/
theorem takes_step {c : Char} (h : machine start c = (last, made)) :
    machine.Takes start [c] last made := by
  have hsingle := takes_single machine start c
  rwa [h] at hsingle

/-- One text after another takes a machine as far as both do. -/
theorem Takes.append (hs : machine.Takes start s middle made)
    (ht : machine.Takes middle t last more) : machine.Takes start (s ++ t) last (made ++ more) := by
  induction s generalizing start made with
  | nil =>
    cases hs
    exact ht
  | cons c s ih =>
    rw [Takes, run, Prod.mk.injEq] at hs
    obtain ⟨hmiddle, rfl⟩ := hs
    have hrest : machine.Takes (machine start c).1 (s ++ t) last
        ((machine.run (machine start c).1 s).2 ++ more) := ih (by rw [Takes, ← hmiddle])
    rw [Takes] at hrest
    rw [List.cons_append, Takes, run, hrest, List.append_assoc]

/-- Characters that are each added to what a state has read are all added. -/
theorem takes_of_step {f : List Char → σ}
    (h : ∀ c ∈ s, ∀ read, machine (f read) c = (f (read ++ [c]), [])) (read : List Char) :
    machine.Takes (f read) s (f (read ++ s)) [] := by
  induction s generalizing read with
  | nil =>
    rw [List.append_nil]
    exact .refl _
  | cons c s ih =>
    have hfirst := takes_step (h c List.mem_cons_self read)
    have hrest := ih (fun d hd => h d (List.mem_cons_of_mem c hd)) (read ++ [c])
    rw [List.append_assoc, List.singleton_append] at hrest
    exact hfirst.append hrest

end Machine

/-- A text that is not empty and has characters of one class only begins with one of them. -/
theorem chars_of_all {p : Char → Bool} {s : String} (h : (!s.isEmpty && s.toList.all p) = true) :
    ∃ c rest, s.toList = c :: rest ∧ ∀ d ∈ c :: rest, p d = true := by
  rw [Bool.and_eq_true] at h
  have hne : s.toList ≠ [] := fun hnil => by
    rw [String.toList_eq_nil_iff] at hnil
    simp [hnil] at h
  obtain ⟨c, rest, hs⟩ := List.exists_cons_of_ne_nil hne
  exact ⟨c, rest, hs, by simpa [hs] using h.2⟩

end Folio.Text
