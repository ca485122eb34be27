import Folio.Pattern.Escape

/-!
# Bracketed classes

Between brackets stand characters, ranges, classes by name and further brackets; `&&`, `--` and `~~`
combine what stands left and right of them, from the left. Open brackets are kept on a stack.
-/

namespace Folio.Pattern

/-- An open bracket: what the enclosing bracket held before it, the parts of the pattern in which it
was opened, whether it is negated, and the operation that waits for its right side. -/
structure Bracket where
  outer : List ClassSet
  outerStart : Place
  span : Span
  negated : Bool
  pending : Option (ClassOp × ClassSet)

/-- The reader of a class: the innermost bracket, what it holds so far (last first) and where that
starts, and the brackets around it. -/
structure BracketState where
  current : Bracket
  items : List ClassSet
  start : Place
  enclosing : List Bracket

/-- The items of a bracket as one set. -/
def ClassSet.ofItems (start : Place) (items : List ClassSet) : ClassSet :=
  match items with
  | [] => .empty start.span
  | [item] => item
  | last :: rest =>
    let first := (rest.getLast?.getD last).span
    .union ⟨first.start, last.span.stop⟩ (last :: rest).reverse

/-- What an operation waits for is its right side. -/
def Bracket.complete (b : Bracket) (right : ClassSet) : ClassSet :=
  match b.pending with
  | none => right
  | some (op, left) => .binary ⟨left.span.start, right.span.stop⟩ op left right

/-- Hyphens that open a class stand for themselves. -/
def openingHyphens (start : Place) (items : List ClassSet) : Nat → Cursor → Reading (List ClassSet)
  | 0, c => .ok (items, c)
  | fuel + 1, c =>
    if c.head? = some '-' then
      let after := c.next
      if after.atEnd then .error { span := start.span, cause := .classUnclosed }
      else
        openingHyphens start (.literal ⟨c.charSpan, '-', false⟩ :: items) fuel after
    else .ok (items, c)

/-- Open a bracket. A circumflex negates the class; after it, hyphens stand for themselves, and so
does a closing bracket that comes at once. -/
def openBracket (outer : List ClassSet) (outerStart : Place) (enclosing : List Bracket)
    (c : Cursor) : Except Fault (BracketState × Cursor) := do
  let start := c.place
  let c := c.next
  if c.atEnd then c.refuse start .classUnclosed
  let negated := c.head? = some '^'
  let c := if negated then c.next else c
  if c.atEnd then c.refuse start .classUnclosed
  let itemsStart := c.place
  let (items, c) ← openingHyphens start [] c.rest.length c
  let closer := items.isEmpty && c.head? = some ']'
  let items := if closer then [.literal ⟨c.charSpan, ']', false⟩] else items
  let c := if closer then c.next else c
  if c.atEnd then c.refuse start .classUnclosed
  let current := { outer, outerStart, span := c.since start, negated, pending := none }
  return ({ current, items, start := itemsStart, enclosing }, c)

/-- The ASCII class of a name. -/
def AsciiClass.named? (name : List Char) : Option AsciiClass :=
  match String.ofList name with
  | "alnum" => some .alnum
  | "alpha" => some .alpha
  | "ascii" => some .ascii
  | "blank" => some .blank
  | "cntrl" => some .cntrl
  | "digit" => some .digit
  | "graph" => some .graph
  | "lower" => some .lower
  | "print" => some .print
  | "punct" => some .punct
  | "space" => some .space
  | "upper" => some .upper
  | "word" => some .word
  | "xdigit" => some .xdigit
  | _ => none

/-- Pass as many characters. -/
def Cursor.passMany (c : Cursor) : Nat → Cursor
  | 0 => c
  | n + 1 => c.pass.passMany n

/-- An ASCII class by its name, such as `[:alpha:]` or `[:^alpha:]`. -/
def asciiClass? (c : Cursor) : Option (ClassSet × Cursor) := do
  let inner ← c.after? ['[', ':']
  let negated := inner.head? = some '^'
  let inner := if negated then inner.pass else inner
  let name := inner.rest.takeWhile (· ≠ ':')
  let after ← (inner.passMany name.length).after? [':', ']']
  let kind ← AsciiClass.named? name
  return (.ascii (after.since c.place) kind negated, after)

/-- A character of a class, or an escape. -/
def bracketItem (c : Cursor) : Reading Tree :=
  match c.head? with
  | none => c.refuseHere .classUnclosed
  | some '\\' => readEscape c
  | some x => .ok (.literal ⟨c.charSpan, x, false⟩, c.pass)

/-- What stands between brackets as one of their items. -/
def Tree.asSet : Tree → Except Fault ClassSet
  | .literal l => .ok (.literal l)
  | .shorthand s kind negated => .ok (.shorthand s kind negated)
  | .property s name negated => .ok (.property s name negated)
  | tree => .error { span := tree.span, cause := .classEscape }

/-- What stands at an end of a range. -/
def Tree.asLiteral : Tree → Except Fault Literal
  | .literal l => .ok l
  | tree => .error { span := tree.span, cause := .classRangeEnd }

/-- The fault of a class that is not closed: it shows the opening of the innermost bracket. -/
def BracketState.unclosed {α : Type} (s : BracketState) : Except Fault α :=
  .error { span := s.current.span, cause := .classUnclosed }

/-- A character, a range or a class by name. A hyphen stands for itself before a closing bracket,
and two hyphens are an operation. -/
def bracketRange (s : BracketState) (c : Cursor) : Except Fault (ClassSet × Cursor) := do
  let (first, c) ← bracketItem c
  let c := c.skipBlanks
  if c.atEnd then s.unclosed
  let next := c.secondPart?
  if c.head? ≠ some '-' || next = some ']' || next = some '-' then
    return (← first.asSet, c)
  let c := c.next
  if c.atEnd then s.unclosed
  let (last, c) ← bracketItem c
  let span : Span := ⟨first.span.start, last.span.stop⟩
  let lo ← first.asLiteral
  let hi ← last.asLiteral
  if hi.char < lo.char then throw { span, cause := .classRange }
  return (.range span lo hi, c)

/-- The operation that comes next. -/
def classOp? (c : Cursor) : Option ClassOp :=
  match c.rest with
  | '&' :: '&' :: _ => some .intersection
  | '-' :: '-' :: _ => some .difference
  | '~' :: '~' :: _ => some .symmetricDifference
  | _ => none

/-- Close the innermost bracket: the whole class, or the reader of the bracket around it. -/
def closeBracket (s : BracketState) (c : Cursor) : (Tree ⊕ BracketState) × Cursor :=
  let set := s.current.complete (.ofItems s.start s.items)
  let c := c.pass
  let span := c.since s.current.span.start
  match s.enclosing with
  | [] => (.inl (.bracketed span s.current.negated set), c)
  | outer :: enclosing =>
    let item := ClassSet.bracketed span s.current.negated set
    (.inr
      { current := outer
        items := item :: s.current.outer
        start := s.current.outerStart
        enclosing }, c)

/-- A class from its second character on. `fuel` bounds the number of characters. -/
def bracketLoop : Nat → BracketState → Cursor → Except Fault (Tree × Cursor)
  | 0, s, _ => s.unclosed
  | fuel + 1, s, c => do
    let c := c.skipBlanks
    match c.head? with
    | none => s.unclosed
    | some '[' =>
      match asciiClass? c with
      | some (set, c) => bracketLoop fuel { s with items := set :: s.items } c
      | none =>
        let (inner, c) ← openBracket s.items s.start (s.current :: s.enclosing) c
        bracketLoop fuel inner c
    | some ']' =>
      match closeBracket s c with
      | (.inl tree, c) => return (tree, c)
      | (.inr outer, c) => bracketLoop fuel outer c
    | some _ =>
      match classOp? c with
      | some op =>
        let c := c.pass.pass
        let left := s.current.complete (.ofItems s.start s.items)
        let current := { s.current with pending := some (op, left) }
        bracketLoop fuel { s with current, items := [], start := c.place } c
      | none =>
        let (item, c) ← bracketRange s c
        bracketLoop fuel { s with items := item :: s.items } c

/-- A class in brackets. -/
def readBracketed (c : Cursor) : Except Fault (Tree × Cursor) := do
  let (s, c) ← openBracket [] c.place [] c
  bracketLoop (c.rest.length + 1) s c

end Folio.Pattern
