import Folio.Json.Scan
import Folio.Json.Value

/-!
# Shapes of data

A shape says which values fit, and text is read under a shape. An object may have its fields in any
order and other fields besides, and a list of the field values in order stands for the object. What
is read is the object with all its fields in the order of the shape.
-/

namespace Folio.Json

open Folio.Text (Symbol)

/-- A shape of values. -/
inductive Shape where
  /-- A text that passes a test. -/
  | text (accepts : String → Bool)
  | flag
  /-- A natural number up to a largest one. -/
  | number (largest : Nat)
  | list (item : Shape)
  /-- A value or null. -/
  | optional (value : Shape)
  /-- An object: the names and shapes of its fields, and for each what it is when it is missing, if
  it may be. -/
  | record (fields : List (String × Shape × Option Value))

namespace Shape

/-- Any text. -/
def anyText : Shape := .text fun _ => true

/-- The fault of a value that is not of the kind asked for: the value's own fault, if it has one
within its first token, or that it does not fit. -/
def misfit (s : List Symbol) : Fault :=
  let after {α : Type} (result : Except Fault α) : Fault :=
    match result with
    | .error fault => fault
    | .ok _ => .wrongData
  match s with
  | [] => .endOfText
  | some 'n' :: rest => after (passWord "ull".toList rest)
  | some 't' :: rest => after (passWord "rue".toList rest)
  | some 'f' :: rest => after (passWord "alse".toList rest)
  | some '"' :: rest => after (Json.text rest)
  | some '[' :: _ => .wrongData
  | some '{' :: _ => .wrongData
  | c :: _ => if c = some '-' || isDigit c then after (Json.number s) else .syntaxError

/-- Read a text that passes a test. -/
def readText (accepts : String → Bool) : Reader Value := fun s =>
  match dropBlank s with
  | some '"' :: rest => do
    let (t, rest) ← Json.text rest
    if accepts t then return (.text t, rest) else throw .wrongData
  | s => throw (misfit s)

/-- Read a flag. -/
def readFlag : Reader Value := fun s =>
  match dropBlank s with
  | some 't' :: rest => do return (.flag true, ← passWord "rue".toList rest)
  | some 'f' :: rest => do return (.flag false, ← passWord "alse".toList rest)
  | s => throw (misfit s)

/-- Read a natural number up to a largest one. -/
def readNumber (largest : Nat) : Reader Value := fun s =>
  match dropBlank s with
  | [] => throw .endOfText
  | c :: rest =>
    if c = some '-' || isDigit c then do
      let (n, rest) ← Json.number (c :: rest)
      match n with
      | some n => if n ≤ largest then return (.number n, rest) else throw .wrongData
      | none => throw .wrongData
    else throw (misfit (c :: rest))

/-- Read a value or null. -/
def readOptional (value : Reader Value) : Reader Value := fun s =>
  match dropBlank s with
  | some 'n' :: rest => do return (.null, ← passWord "ull".toList rest)
  | s => value s

/-- Go to the next item of a list: the rest at the item, or `none` at the end of the list. -/
def nextItem (first : Bool) (s : List Symbol) : Except Fault (Option (List Symbol)) :=
  match dropBlank s with
  | [] => .error .endOfText
  | c :: rest =>
    if c = some ']' then .ok none
    else if first then .ok (some (c :: rest))
    else if c = some ',' then
      match dropBlank rest with
      | [] => .error .endOfText
      | d :: more => if d = some ']' then .error .syntaxError else .ok (some (d :: more))
    else .error .syntaxError

/-- Pass the end of a list. -/
def endList (s : List Symbol) : Except Fault (List Symbol) :=
  match dropBlank s with
  | [] => .error .endOfText
  | c :: rest => if c = some ']' then .ok rest else .error .syntaxError

/-- Read the items of a list up to its end. The fuel bounds the items. -/
def readItems (item : Reader Value) : Nat → Bool → Reader (List Value)
  | 0, _, _ => .error .syntaxError
  | fuel + 1, first, s => do
    match ← nextItem first s with
    | none => return ([], s)
    | some s =>
      let (value, rest) ← item s
      let (values, rest) ← readItems item fuel false rest
      return (value :: values, rest)

/-- Read a list. -/
def readList (item : Reader Value) : Reader Value := fun s =>
  match dropBlank s with
  | some '[' :: rest => do
    let (values, rest) ← readItems item (rest.length + 1) true rest
    return (.list values, ← endList rest)
  | s => throw (misfit s)

/-- How a field of a record is read. -/
structure FieldReader where
  name : String
  read : Reader Value
  /-- What the field is when it is missing, if it may be. -/
  absent : Option Value

/-- Read the fields of a record from a list. -/
def readPositional : List FieldReader → Bool → Reader (List (String × Value))
  | [], _, s => .ok ([], s)
  | field :: fields, first, s => do
    match ← nextItem first s with
    | none =>
      match field.absent with
      | none => throw .wrongData
      | some value =>
        let (entries, rest) ← readPositional fields first s
        return ((field.name, value) :: entries, rest)
    | some s =>
      let (value, rest) ← field.read s
      let (entries, rest) ← readPositional fields false rest
      return ((field.name, value) :: entries, rest)

/-- Go to the name of the next entry of an object: the rest behind its opening quote, or `none` at
the end of the object. -/
def nextEntry (first : Bool) (s : List Symbol) : Except Fault (Option (List Symbol)) :=
  match dropBlank s with
  | [] => .error .endOfText
  | c :: rest =>
    if c = some '}' then .ok none
    else if first then if c = some '"' then .ok (some rest) else .error .syntaxError
    else if c = some ',' then
      match dropBlank rest with
      | [] => .error .endOfText
      | d :: more => if d = some '"' then .ok (some more) else .error .syntaxError
    else .error .syntaxError

/-- Pass a colon. -/
def passColon (s : List Symbol) : Except Fault (List Symbol) :=
  match dropBlank s with
  | [] => .error .endOfText
  | c :: rest => if c = some ':' then .ok rest else .error .syntaxError

/-- Read the entries of an object up to its end; the known ones are kept. A known one may occur only
once. The fuel bounds the entries. -/
def readEntries (fields : List FieldReader) :
    Nat → Bool → List (String × Value) → Reader (List (String × Value))
  | 0, _, _, _ => .error .syntaxError
  | fuel + 1, first, found, s => do
    match ← nextEntry first s with
    | none => return (found, s)
    | some s =>
      let (name, rest) ← Json.text s
      match fields.find? fun field => field.name = name with
      | none =>
        let rest ← passValue (← passColon rest)
        readEntries fields fuel false found rest
      | some field =>
        if (found.lookup name).isSome then throw .wrongData
        let (value, rest) ← field.read (← passColon rest)
        readEntries fields fuel false (found ++ [(name, value)]) rest

/-- The fields of a record in order, missing ones filled in. -/
def complete (found : List (String × Value)) :
    List FieldReader → Except Fault (List (String × Value))
  | [] => .ok []
  | field :: fields =>
    match (found.lookup field.name).or field.absent with
    | none => .error .wrongData
    | some value => (complete found fields).map fun entries => (field.name, value) :: entries

/-- Pass the end of an object. -/
def endObject (s : List Symbol) : Except Fault (List Symbol) :=
  match dropBlank s with
  | [] => .error .endOfText
  | c :: rest => if c = some '}' then .ok rest else .error .syntaxError

/-- Read a record. -/
def readRecord (fields : List FieldReader) : Reader Value := fun s =>
  match dropBlank s with
  | some '[' :: rest => do
    let (entries, rest) ← readPositional fields true rest
    return (.object entries, ← endList rest)
  | some '{' :: rest => do
    let (found, rest) ← readEntries fields (rest.length + 1) true [] rest
    let entries ← complete found fields
    return (.object entries, ← endObject rest)
  | s => throw (misfit s)

mutual

/-- Read a value of a shape. -/
def read : Shape → Reader Value
  | .text accepts => readText accepts
  | .flag => readFlag
  | .number largest => readNumber largest
  | .list item => readList (read item)
  | .optional value => readOptional (read value)
  | .record fields => readRecord (fieldReaders fields)

/-- How the fields of a record are read. -/
def fieldReaders : List (String × Shape × Option Value) → List FieldReader
  | [] => []
  | (name, shape, absent) :: fields => ⟨name, read shape, absent⟩ :: fieldReaders fields

end

/-- Read a whole text as one value of a shape. -/
def parse (shape : Shape) (s : List Symbol) : Except Fault Value := do
  let (value, rest) ← shape.read s
  if (dropBlank rest).isEmpty then return value else throw .syntaxError

end Shape

end Folio.Json
