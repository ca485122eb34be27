import Folio.Site.Address
import Folio.Site.Query.Level

/-!
# Queries

A query is a row of names and values. A name may go on in brackets: empty ones make it a list, a
number in them a list by numbers, and anything else a group of names. Brackets may be
percent-encoded in names, not in values. Names that go on too far are taken as they are.

An argument is the text that a query gives to a name. Other names only have to be given in a way
that is not invalid.
-/

namespace Folio.Site

/-- Why a query has no text for a name. -/
inductive QueryFault where
  | ended
  | badNumber
  | hugeNumber
  | noGroup (level : Level) (position : Nat)
  | namedItem (position : Nat)
  | misfit (reason : Misfit)
  | groupForText
  | listForText
  | missing (name : String)
  deriving Repr

/-- The text of the fault. -/
def QueryFault.message : QueryFault → String
  | .ended => "query string ended before expected"
  | .badNumber => "invalid digit found in string"
  | .hugeNumber => "number too large to fit in target type"
  | .noGroup level position => stuck ("tried to insert a new key into " ++ level.describe) position
  | .namedItem position => stuck "non-indexed sequence of structs not supported" position
  | .misfit reason => reason.message
  | .groupForText => "invalid type: map, expected a string"
  | .listForText => "invalid type: sequence, expected a string"
  | .missing name => "missing field " ++ "\x60" ++ name ++ "\x60"
where
  /-- The text of a fault at a place. -/
  stuck (reason : String) (position : Nat) : String :=
    "parsing failed with error: '" ++ reason ++ "' at position: " ++ toString position

/-- A character of a query, or a bracket, as it is written, and how many bytes end with it. -/
structure QueryToken where
  char : Char
  written : List Char
  position : Nat
  deriving Repr, DecidableEq

namespace QueryToken

/-- The tokens of a query behind some bytes. -/
def ofQuery (position : Nat) : List Char → List QueryToken
  | '%' :: '5' :: 'B' :: rest =>
    ⟨'[', ['%', '5', 'B'], position + 3⟩ :: ofQuery (position + 3) rest
  | '%' :: '5' :: 'D' :: rest =>
    ⟨']', ['%', '5', 'D'], position + 3⟩ :: ofQuery (position + 3) rest
  | c :: rest => ⟨c, [c], position + c.utf8Size⟩ :: ofQuery (position + c.utf8Size) rest
  | [] => []

/-- Whether a token is one of some characters. -/
def isOneOf (chars : List Char) (t : QueryToken) : Bool := chars.contains t.char

/-- Whether a token counts behind an opening bracket: another one does not, and neither does what is
not visible ASCII. -/
def countsInBrackets (t : QueryToken) : Bool := t.char ≠ '[' && ' ' ≤ t.char && t.char ≤ '~'

end QueryToken

/-- The text of a name or value: a plus sign is a space, and percent escapes are decoded. -/
def queryText (s : List Char) : String :=
  String.ofList (decodeText (s.map fun c => if c = '+' then ' ' else c))

/-- The value that tokens are. -/
def tokenText (tokens : List QueryToken) : String := queryText (tokens.flatMap (·.written))

/-- The name that tokens are. It is as long as there are tokens. -/
def tokenName (tokens : List QueryToken) : String :=
  queryText ((tokens.flatMap (·.written)).take tokens.length)

/-- The greatest number in brackets. -/
def greatestNumber : Nat := 0xFFFFFFFFFFFFFFFF

/-- The number in brackets. -/
def readNumber (name : String) : Except QueryFault Nat :=
  name.toList.foldlM (fun n c =>
    if !c.isDigit then .error .badNumber
    else
      let next := 10 * n + (c.toNat - 48)
      if greatestNumber < next then .error .hugeNumber else .ok next) 0

/-- Where a value is put. -/
inductive Slot where
  | named (name : String)
  | numbered (number : Nat)
  | item
  deriving Repr, DecidableEq

namespace Slot

/-- Give a text to a place. -/
def insert (value : String) (level : Level) : Slot → Level
  | .named name => level.insertName name value
  | .numbered number => level.insertNumber number value
  | .item => level.insertItem value

/-- Change what is at a place by going on in brackets. -/
def update (change : Level → Except QueryFault (Level × List QueryToken)) (position : Nat)
    (level : Level) : Slot → Except QueryFault (Level × List QueryToken)
  | .named name => do
    let entries ← match level with
      | .unset => .ok []
      | .group entries => .ok entries
      | _ => .error (.noGroup level position)
    let (inner, rest) ← change ((entries.lookup name).getD .unset)
    return (.group (Level.putName name inner entries), rest)
  | .numbered number => do
    let entries ← match level with
      | .unset => .ok []
      | .numbered entries => .ok entries
      | _ => .error (.noGroup level position)
    let (inner, rest) ← change ((entries.lookup number).getD .unset)
    return (.numbered (Level.putNumber number inner entries), rest)
  | .item => .error (.namedItem position)

end Slot

/-- The place that tokens begin with, and what follows it. In brackets only the closing one and an
ampersand end a name. -/
def readSlot : List QueryToken → Except QueryFault (Slot × List QueryToken)
  | [] => .ok (.named "", [])
  | first :: rest =>
    if first.char = '[' then
      match rest.dropWhile fun t => !t.countsInBrackets with
      | [] => .error .ended
      | t :: more =>
        if t.char = ']' then .ok (.item, more)
        else
          let (name, rest) := (t :: more).span fun t => !t.isOneOf [']', '&']
          let rest := match rest with
            | close :: after => if close.char = ']' then after else rest
            | [] => []
          if t.char.isDigit then do return (.numbered (← readNumber (tokenName name)), rest)
          else .ok (.named (tokenName name), rest)
    else
      let (name, rest) := (first :: rest).span fun t => !t.isOneOf ['[', '=', '&']
      .ok (.named (tokenName name), rest)

/-- Read a place and the value for it into a level, where brackets may follow `depth` times. The
tokens behind the value are left. -/
def readEntry : Nat → Level → List QueryToken → Except QueryFault (Level × List QueryToken)
  | 0, level, tokens =>
    let (name, rest) := (tokens.drop 1).span fun t => !t.isOneOf ['=', '&']
    let value := (rest.takeWhile (·.char ≠ '&')).drop 1
    .ok (level.insertName (tokenName name) (tokenText value), rest.dropWhile (·.char ≠ '&'))
  | depth + 1, level, tokens => do
    let (slot, rest) ← readSlot tokens
    let skips (t : QueryToken) := slot ≠ .item && !t.isOneOf ['[', '=', '&']
    let rest := rest.dropWhile skips
    match rest with
    | [] => return (slot.insert "" level, [])
    | t :: more =>
      if t.char = '&' then return (slot.insert "" level, rest)
      else if t.char = '=' then
        let value := more.takeWhile (·.char ≠ '&')
        return (slot.insert (tokenText value) level, more.dropWhile (·.char ≠ '&'))
      else slot.update (fun inner => readEntry depth inner rest) t.position level

/-- Read all entries of a query into a level. Every entry lets the next one go on once more. `fuel`
bounds the number of entries. -/
def readEntries : Nat → Nat → Level → List QueryToken → Except QueryFault Level
  | 0, _, level, _ => .ok level
  | fuel + 1, depth, level, tokens =>
    match tokens.dropWhile (·.char = '&') with
    | [] => .ok level
    | tokens => do
      let (level, rest) ← readEntry depth level tokens
      readEntries fuel (depth + 1) level rest

/-- The entries of a query by name. There are none if the query as a whole is no group. -/
def readQuery (query : String) : Except QueryFault (List (String × Level)) := do
  let tokens := QueryToken.ofQuery 0 query.toList
  match ← readEntries tokens.length 5 (.group []) tokens with
  | .group entries => return entries
  | _ => return []

/-- Why an entry of a query cannot be read, as a text if it is wanted. -/
def Level.fault? (wanted : Bool) : Level → Option QueryFault
  | .invalid reason => some (.misfit reason)
  | level =>
    if wanted then
      match level with
      | .group _ => some .groupForText
      | .items _ | .numbered _ => some .listForText
      | _ => none
    else level.misfit?.map .misfit

/-- The text that a query gives to a name, or why there is none. -/
def readArgument (name query : String) : Except QueryFault String := do
  let entries ← readQuery query
  match entries.findSome? fun (key, level) => level.fault? (key = name) with
  | some fault => throw fault
  | none =>
    match entries.lookup name with
    | some (.text value) => return value
    | _ => throw (.missing name)

end Folio.Site
