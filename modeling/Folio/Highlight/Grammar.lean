import Folio.Highlight.Listing
import Folio.Highlight.Probe

/-!
# Grammars

A grammar gives the stretches of a text their roles. It is a machine with a stack of contexts. At
each place of a line the rules of the top context are tried in order; the first that holds takes
its pieces off the text and turns the stack, and where none holds one character passes. The stack
goes on from line to line. A rule cuts its pieces from the line, so the stretches of a line are the
line again, whatever the grammar.
-/

namespace Folio.Highlight

/-- What a rule does with the stack of contexts. The last of several contexts comes to its top. -/
inductive Turn (Context : Type) where
  | stay
  | pop
  | push (contexts : List Context)
  | swap (contexts : List Context)

/-- The stack after a turn. -/
def Turn.apply {Context : Type} : Turn Context → List Context → List Context
  | .stay, stack => stack
  | .pop, stack => stack.tail
  | .push contexts, stack => contexts.reverse ++ stack
  | .swap contexts, stack => contexts.reverse ++ stack.tail

/-- The same turn among other contexts. -/
def Turn.map {Context Other : Type} (f : Context → Other) : Turn Context → Turn Other
  | .stay => .stay
  | .pop => .pop
  | .push contexts => .push (contexts.map f)
  | .swap contexts => .swap (contexts.map f)

/-- A piece of a rule: what it accepts, and its role, if it has one of its own. -/
structure Piece where
  probe : Probe
  role : Option Role

/-- A rule: the pieces that must follow one another, and the turn that the stack takes. -/
structure Rule (Context : Type) where
  pieces : List Piece
  turn : Turn Context

/-- A grammar. The ground of a context is the role of text that no rule gives one. -/
structure Grammar where
  Context : Type
  start : Context
  ground : Context → Option Role
  rules : Context → List (Rule Context)

/-- A stretch of a line, and the role that a rule gave it. -/
abbrev Cut := Option Role × List Char

/-- Take pieces off a text: the cuts, the last character taken or else the one before, and the text
that is left. -/
def Piece.takeAll : List Piece → Option Char → List Char →
    Option (List Cut × Option Char × List Char)
  | [], before, rest => some ([], before, rest)
  | piece :: pieces, before, rest => do
    let n ← piece.probe before rest
    let taken := rest.take n
    let (cuts, last, left) ← takeAll pieces (taken.getLast?.or before) (rest.drop n)
    return ((piece.role, taken) :: cuts, last, left)

/-- Pieces only cut: what they take and what they leave is the text. -/
theorem Piece.text_takeAll {pieces : List Piece} {before last : Option Char}
    {rest left : List Char} {cuts : List Cut}
    (h : takeAll pieces before rest = some (cuts, last, left)) :
    cuts.flatMap (·.2) ++ left = rest := by
  induction pieces generalizing before rest cuts with
  | nil =>
    simp only [takeAll, Option.some.injEq, Prod.mk.injEq] at h
    obtain ⟨rfl, -, rfl⟩ := h
    rfl
  | cons piece pieces ih =>
    simp only [takeAll, Option.bind_eq_bind, Option.bind_eq_some_iff] at h
    obtain ⟨n, -, ⟨more, last', left'⟩, hmore, h⟩ := h
    simp only [Option.pure_def, Option.some.injEq, Prod.mk.injEq] at h
    obtain ⟨rfl, rfl, rfl⟩ := h
    rw [List.flatMap_cons, List.append_assoc, ih hmore]
    exact List.take_append_drop n rest

namespace Rule

variable {Context : Type}

/-- A stretch in a role of its own. -/
def token (role : Role) (probe : Probe) : Rule Context := ⟨[⟨probe, some role⟩], .stay⟩

/-- A stretch by itself, in the role of the text around it. -/
def mark (probe : Probe) : Rule Context := ⟨[⟨probe, none⟩], .stay⟩

/-- Stretches in roles of their own. -/
def parts (pieces : List (Role × Probe)) : Rule Context :=
  ⟨pieces.map fun (role, probe) => ⟨probe, some role⟩, .stay⟩

/-- A rule with another turn. -/
def thenTurn (rule : Rule Context) (turn : Turn Context) : Rule Context := { rule with turn }

/-- A stretch in a role of its own that opens a context. -/
def opens (role : Role) (probe : Probe) (context : Context) : Rule Context :=
  (token role probe).thenTurn (.push [context])

/-- A stretch in a role of its own that closes its context. -/
def closes (role : Role) (probe : Probe) : Rule Context := (token role probe).thenTurn .pop

/-- The same rule among other contexts. -/
def map {Other : Type} (f : Context → Other) (rule : Rule Context) : Rule Other :=
  ⟨rule.pieces, rule.turn.map f⟩

/-- Leave the context where a probe holds. -/
def leave (probe : Probe) : Rule Context := ⟨[⟨Probe.ahead probe, none⟩], .pop⟩

end Rule

namespace Grammar

/-- The rules of the top context of a stack. -/
def active (g : Grammar) (stack : List g.Context) : List (Rule g.Context) :=
  g.rules (stack.head?.getD g.start)

/-- The role of text that no rule gives one: that of the nearest context with a ground. -/
def backdrop (g : Grammar) (stack : List g.Context) : Role :=
  (stack.findSome? g.ground).getD .plain

/-- The span of a cut, if it is not empty. -/
def spanOf (g : Grammar) (stack : List g.Context) : Cut → Option Span
  | (_, []) => none
  | (role, text) => some ((role.getD (g.backdrop stack)).style, text)

/-- What the first rule that holds at a place does: the cuts, the last character taken, the text
that is left, and the stack. -/
def step? (g : Grammar) (stack : List g.Context) (before : Option Char) (rest : List Char) :
    Option (List Cut × Option Char × List Char × List g.Context) :=
  (g.active stack).findSome? fun rule =>
    (Piece.takeAll rule.pieces before rest).map fun (cuts, last, left) =>
      (cuts, last, left, rule.turn.apply stack)

/-- The spans from a place of a line, and the stack after them. Characters that have passed since
the last rule held are in `passed`, the last one first. When the steps run out the rest of the line
passes. -/
def scan (g : Grammar) : Nat → List g.Context → Option Char → List Char → List Char →
    List Span × List g.Context
  | 0, stack, _, passed, rest =>
    ([(none, passed.reverse ++ rest)].filterMap (g.spanOf stack), stack)
  | steps + 1, stack, before, passed, rest =>
    match g.step? stack before rest with
    | some (cuts, last, left, stackAfter) =>
      let after := g.scan steps stackAfter last [] left
      (((none, passed.reverse) :: cuts).filterMap (g.spanOf stack) ++ after.1, after.2)
    | none =>
      match rest with
      | [] => ([(none, passed.reverse)].filterMap (g.spanOf stack), stack)
      | c :: left => g.scan steps stack (some c) (c :: passed) left

/-- The text of spans. -/
def text (spans : List Span) : List Char := spans.flatMap (·.2)

/-- The spans of cuts have the text of the cuts. -/
theorem text_spanOf (g : Grammar) (stack : List g.Context) (cuts : List Cut) :
    text (cuts.filterMap (g.spanOf stack)) = cuts.flatMap (·.2) := by
  induction cuts with
  | nil => rfl
  | cons cut cuts ih =>
    rw [List.flatMap_cons, ← ih]
    rcases cut with ⟨role, _ | ⟨c, s⟩⟩ <;> rw [List.filterMap_cons] <;> simp [spanOf, text]

/-- A step only cuts: what it takes and what it leaves is the text. -/
theorem text_step? {g : Grammar} {stack stackAfter : List g.Context} {before last : Option Char}
    {rest left : List Char} {cuts : List Cut}
    (h : g.step? stack before rest = some (cuts, last, left, stackAfter)) :
    cuts.flatMap (·.2) ++ left = rest := by
  obtain ⟨rule, -, hrule⟩ := List.exists_of_findSome?_eq_some h
  obtain ⟨⟨cuts', last', left'⟩, htake, heq⟩ := Option.map_eq_some_iff.mp hrule
  simp only [Prod.mk.injEq] at heq
  obtain ⟨rfl, -, rfl, -⟩ := heq
  exact Piece.text_takeAll htake

/-- Scanning loses nothing: the spans of a line have the text of the line. -/
theorem text_scan (g : Grammar) (steps : Nat) (stack : List g.Context) (before : Option Char)
    (passed rest : List Char) :
    text (g.scan steps stack before passed rest).1 = passed.reverse ++ rest := by
  induction steps generalizing stack before passed rest with
  | zero => simp [scan, text_spanOf]
  | succ steps ih =>
    unfold scan
    split
    · next cuts last left stackAfter hstep =>
      have hcuts := text_spanOf g stack ((none, passed.reverse) :: cuts)
      have hafter := ih stackAfter last [] left
      simp only [text, List.flatMap_append] at hcuts hafter ⊢
      rw [hcuts, hafter, ← text_step? hstep]
      simp
    · split
      · simp [text_spanOf]
      · next c left _ => simp [ih]

/-- The spans of a line, and the stack after it. -/
def line (g : Grammar) (stack : List g.Context) (text : List Char) :
    List Span × List g.Context :=
  g.scan (6 * text.length + stack.length + 12) stack none [] text

/-- The spans of lines. -/
def linesFrom (g : Grammar) : List g.Context → List (List Char) → List (List Span)
  | _, [] => []
  | stack, text :: more =>
    let (spans, next) := g.line stack text
    spans :: g.linesFrom next more

/-- The spans of each line of a code. -/
def cut (g : Grammar) (code : List Char) : List (List Span) :=
  g.linesFrom [g.start] (lines code)

end Grammar

end Folio.Highlight
