import Folio.Yaml.Token
import Folio.Yaml.Value

/-!
# From tokens to values

The tokens of a text are read as documents, and the first document is the text's value. An alias
stands for the value of its anchor; inside that very value it does not fit.
-/

namespace Folio.Yaml

namespace Value

/-- The entries of a map whose keys and values come in turn. A key that does not fit is passed over,
so that its value takes its place. A key may occur only once. -/
def entries? : Option Value → List (Value × Value) → List Value → Option (List (Value × Value))
  | _, entries, [] => some entries
  | none, entries, .bad :: nodes => entries? none entries nodes
  | none, entries, node :: nodes => entries? (some node) entries nodes
  | some key, entries, node :: nodes =>
    if entries.any fun entry => same entry.1 key then none
    else entries? none (entries ++ [(key, node)]) nodes

end Value

/-- Tokens that are being read, and what they have named so far. -/
structure Reading where
  tokens : List Token
  /-- The numbers of the anchors, the latest first. -/
  anchors : List (List Char × Nat)
  /-- The values of the anchors that are complete. -/
  values : List (Nat × Value)
  /-- The number of the latest anchor. -/
  count : Nat
  /-- What the handles of tags stand for. -/
  handles : List (List Char × List Char)

namespace Reading

/-- A step that reads tokens. -/
abbrev Step := StateT Reading Option

/-- The next token. -/
def peek : Step (Option Token) := return (← get).tokens.head?

/-- Pass the next token. -/
def skip : Step Unit := modify fun r => { r with tokens := r.tokens.tail }

/-- Pass the next token if it is a given one. -/
def accept (token : Token) : Step Bool := do
  if (← peek) = some token then
    skip
    return true
  else return false

/-- Pass the next token, which must be a given one. -/
def expect (token : Token) : Step Unit := do
  if !(← accept token) then failure

/-- The tag of a node: what its handle stands for, and its suffix. -/
abbrev Tag := List Char × List Char

/-- What the core schema's tags start with. -/
def coreSchema : List Char := "tag:yaml.org,2002:".toList

/-- The tag that a handle and a suffix stand for. A named handle must have been declared. -/
def resolve (handle suffix : List Char) : Step Tag := do
  match (← get).handles.lookup handle with
  | some start => return (start, suffix)
  | none =>
    if handle = ['!', '!'] then return (coreSchema, suffix)
    else if 2 ≤ handle.length && handle.head? = some '!' && handle.getLast? = some '!' then failure
    else return (handle, suffix)

/-- Give a name to the node that follows. -/
def register (name : List Char) : Step Nat := do
  let r ← get
  let number := r.count + 1
  set { r with count := number, anchors := (name, number) :: r.anchors }
  return number

/-- The anchor and the tag in front of a node, in either order. -/
def properties : Step (Option Nat × Option Tag) := do
  match ← peek with
  | some (.anchor name) =>
    skip
    let number ← register name
    match ← peek with
    | some (.tag handle suffix) =>
      skip
      return (some number, some (← resolve handle suffix))
    | _ => return (some number, none)
  | some (.tag handle suffix) =>
    skip
    let tag ← resolve handle suffix
    match ← peek with
    | some (.anchor name) =>
      skip
      return (some (← register name), some tag)
    | _ => return (none, some tag)
  | _ => return (none, none)

/-- The value of a scalar. -/
def scalar (plain : Bool) (text : List Char) (tag : Option Tag) : Value :=
  if !plain then .text text
  else
    match tag with
    | none => Value.ofPlain text
    | some (start, suffix) =>
      if start = coreSchema then Value.ofTagged (String.ofList suffix) text else .text text

/-- The value of an alias. -/
def aliased (name : List Char) : Step Value := do
  let r ← get
  match r.anchors.lookup name with
  | some number => return (r.values.lookup number).getD .bad
  | none => failure

/-- Keep the value of an anchor. -/
def keep (anchor : Option Nat) (value : Value) : Step Value := do
  match anchor with
  | some number => modify fun r => { r with values := (number, value) :: r.values }
  | none => pure ()
  return value

/-- The value of a node that is left out. -/
def absent : Value := .null

/-- The map whose keys and values come in turn. -/
def mapOf (nodes : List Value) : Step Value := do
  match Value.entries? none [] nodes with
  | some entries => return .map entries
  | none => failure

mutual

/-- A node. The fuel bounds the tokens read. -/
def node : Nat → Bool → Bool → Step Value
  | 0, _, _ => failure
  | fuel + 1, block, indentless => do
    match ← peek with
    | some (.alias name) =>
      skip
      aliased name
    | _ =>
      let (anchor, tag) ← properties
      match ← peek with
      | some (.scalar plain text) =>
        skip
        keep anchor (scalar plain text tag)
      | some .flowSequenceStart =>
        skip
        keep anchor (.list (← flowItems fuel true))
      | some .flowMappingStart =>
        skip
        keep anchor (← mapOf (← flowPairs fuel true))
      | token =>
        if token = some .blockEntry && indentless then
          keep anchor (.list (← indentlessItems fuel))
        else if token = some .blockSequenceStart && block then
          skip
          keep anchor (.list (← blockItems fuel))
        else if token = some .blockMappingStart && block then
          skip
          keep anchor (← mapOf (← blockPairs fuel))
        else if token.isSome && (anchor.isSome || tag.isSome) then keep anchor (scalar true [] tag)
        else failure

/-- The items of a block sequence. -/
def blockItems : Nat → Step (List Value)
  | 0 => failure
  | fuel + 1 => do
    if ← accept .blockEnd then return []
    expect .blockEntry
    let next ← peek
    let item ←
      if next = some .blockEntry || next = some .blockEnd then pure absent else node fuel true false
    return item :: (← blockItems fuel)

/-- The items of a block sequence that is not indented more than the mapping around it. -/
def indentlessItems : Nat → Step (List Value)
  | 0 => failure
  | fuel + 1 => do
    if !(← accept .blockEntry) then return []
    let next ← peek
    let item ←
      if next = some .blockEntry || next = some .key || next = some .value ||
          next = some .blockEnd then pure absent
      else node fuel true false
    return item :: (← indentlessItems fuel)

/-- The keys and values of a block mapping, in turn. -/
def blockPairs : Nat → Step (List Value)
  | 0 => failure
  | fuel + 1 => do
    if ← accept .blockEnd then return []
    let key ←
      if ← accept .key then do
        let next ← peek
        if next = some .key || next = some .value || next = some .blockEnd then pure absent
        else node fuel true true
      else if (← peek) = some .value then pure absent
      else failure
    let value ←
      if ← accept .value then do
        let next ← peek
        if next = some .key || next = some .value || next = some .blockEnd then pure absent
        else node fuel true true
      else pure absent
    return key :: value :: (← blockPairs fuel)

/-- The keys and values of a flow mapping, in turn. -/
def flowPairs : Nat → Bool → Step (List Value)
  | 0, _ => failure
  | fuel + 1, first => do
    if ← accept .flowMappingEnd then return []
    if !first then expect .flowEntry
    if ← accept .flowMappingEnd then return []
    let marked ← accept .key
    let next ← peek
    let key ←
      if next = some .value then pure absent
      else if marked && (next = some .flowEntry || next = some .flowMappingEnd) then pure absent
      else node fuel false false
    let value ←
      if !marked && next ≠ some .value then pure absent
      else if ← accept .value then do
        let next ← peek
        if next = some .flowEntry || next = some .flowMappingEnd then pure absent
        else node fuel false false
      else pure absent
    return key :: value :: (← flowPairs fuel false)

/-- The items of a flow sequence. A key makes a mapping of one entry. -/
def flowItems : Nat → Bool → Step (List Value)
  | 0, _ => failure
  | fuel + 1, first => do
    if ← accept .flowSequenceEnd then return []
    if !first then expect .flowEntry
    if ← accept .flowSequenceEnd then return []
    let item ←
      if ← accept .key then do
        let next ← peek
        let key ←
          if next = some .value || next = some .flowEntry || next = some .flowSequenceEnd then do
            skip
            pure absent
          else node fuel false false
        let value ←
          if ← accept .value then do
            let next ← peek
            if next = some .flowEntry || next = some .flowSequenceEnd then pure absent
            else node fuel false false
          else pure absent
        mapOf [key, value]
      else node fuel false false
    return item :: (← flowItems fuel false)

end

/-- Whether a token is a directive. -/
def isDirective : Option Token → Bool
  | some .versionDirective => true
  | some (.tagDirective _ _) => true
  | _ => false

/-- Read the directives in front of a document. Only the last one counts, and a version may be given
once. The fuel bounds the directives. -/
def directives : Nat → Bool → Step Unit
  | 0, _ => pure ()
  | fuel + 1, versioned => do
    match ← peek with
    | some .versionDirective =>
      if versioned then failure
      skip
      modify fun r => { r with handles := [] }
      directives fuel true
    | some (.tagDirective handle start) =>
      skip
      modify fun r => { r with handles := [(handle, start)] }
      directives fuel versioned
    | _ => pure ()

/-- The value of a document that was marked with `---`. -/
def content (fuel : Nat) : Step Value := do
  let next ← peek
  if next.isNone || isDirective next || next = some .documentStart || next = some .documentEnd then
    return absent
  else node fuel true false

/-- The values of the documents. The first one need not be marked, nor one after `...`. The fuel
bounds the tokens read. -/
def documents : Nat → Bool → Step (List Value)
  | 0, _ => failure
  | fuel + 1, unmarked => do
    if ← accept .documentEnd then documents fuel unmarked
    else
      let next ← peek
      if next.isNone then return []
      let marked := isDirective next || next = some .documentStart || !unmarked
      if marked then
        directives fuel false
        expect .documentStart
      modify fun r => { r with anchors := [] }
      let value ← if marked then content fuel else node fuel true false
      let ended ← accept .documentEnd
      modify fun r => { r with handles := [] }
      if !ended && isDirective (← peek) then failure
      return value :: (← documents fuel ended)

end Reading

/-- The value of a text: its first document, or nothing if the text has no document. A fault
anywhere in the text spoils it. -/
def Value.ofText? (text : List Char) : Option Value := do
  let tokens ← Token.ofText? text
  let reading : Reading := ⟨tokens, [], [], 0, []⟩
  let (values, _) ← (Reading.documents (2 * tokens.length + 4) true).run reading
  return values.head?.getD .null

end Folio.Yaml
