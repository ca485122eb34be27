/-!
# JSON values and their text

A value is written without white space, the entries of an object in order. In a text, quotes,
backslashes and control characters are escaped and nothing else.
-/

namespace Folio.Json

/-- A value. Numbers are natural numbers. -/
inductive Value where
  | null
  | flag (b : Bool)
  | number (n : Nat)
  | text (s : String)
  | list (items : List Value)
  | object (entries : List (String × Value))
  deriving Repr, Inhabited

/-- A hexadecimal digit. -/
def hexDigit (n : Nat) : Char := if n < 10 then Char.ofNat (48 + n) else Char.ofNat (87 + n)

/-- A character within a text. -/
def escapeChar (c : Char) : List Char :=
  if c = '"' then ['\\', '"']
  else if c = '\\' then ['\\', '\\']
  else if c = '\n' then ['\\', 'n']
  else if c = '\r' then ['\\', 'r']
  else if c = '\t' then ['\\', 't']
  else if c = '\x08' then ['\\', 'b']
  else if c = '\x0c' then ['\\', 'f']
  else if c.toNat < 32 then ['\\', 'u', '0', '0', hexDigit (c.toNat / 16), hexDigit (c.toNat % 16)]
  else [c]

/-- A text in quotes. -/
def quoted (s : List Char) : List Char := '"' :: s.flatMap escapeChar ++ ['"']

namespace Value

mutual

/-- The text of a value. -/
def print : Value → List Char
  | .null => "null".toList
  | .flag true => "true".toList
  | .flag false => "false".toList
  | .number n => Nat.toDigits 10 n
  | .text s => quoted s.toList
  | .list [] => ['[', ']']
  | .list (item :: items) => '[' :: print item ++ printItems items ++ [']']
  | .object [] => ['{', '}']
  | .object ((name, value) :: entries) =>
    '{' :: quoted name.toList ++ ':' :: print value ++ printEntries entries ++ ['}']

/-- Items after the first one, with commas in front. -/
def printItems : List Value → List Char
  | [] => []
  | item :: items => ',' :: print item ++ printItems items

/-- Entries after the first one, with commas in front. -/
def printEntries : List (String × Value) → List Char
  | [] => []
  | (name, value) :: entries =>
    ',' :: quoted name.toList ++ ':' :: print value ++ printEntries entries

end

/-- The value of an entry of an object. -/
def entry? (name : String) : Value → Option Value
  | .object entries => entries.lookup name
  | _ => none

/-- The text in a value. -/
def text? : Value → Option String
  | .text s => some s
  | _ => none

/-- The flag in a value. -/
def flag? : Value → Option Bool
  | .flag b => some b
  | _ => none

/-- The number in a value. -/
def number? : Value → Option Nat
  | .number n => some n
  | _ => none

/-- The items of a list, each read in the same way. -/
def listOf? {α : Type} (item? : Value → Option α) : Value → Option (List α)
  | .list items => items.mapM item?
  | _ => none

/-- What is read from a value that may be null. -/
def optional? {α : Type} (item? : Value → Option α) : Value → Option (Option α)
  | .null => some none
  | value => (item? value).map some

/-- A list of texts. -/
def texts (ss : List String) : Value := .list (ss.map .text)

/-- A value that may be missing, as null or itself. -/
def ofOption {α : Type} (write : α → Value) : Option α → Value
  | none => .null
  | some a => write a

end Value

end Folio.Json
