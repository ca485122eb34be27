/-!
# Symbols of a byte string

Bytes are read as UTF-8. A symbol is a character, or a byte that is part of no character. An ASCII
byte is always a character of its own, whatever stands around it. Where only a text will do, what is
no character is replaced, and the bytes of a character that is broken off by one replacement.
-/

namespace Folio.Text

/-- A character, or `none` for a byte that is part of no character. -/
abbrev Symbol := Option Char

/-- How many bytes a symbol takes. -/
def symbolWidth : Symbol → Nat
  | some c => c.utf8Size
  | none => 1

/-- How many bytes symbols take. -/
def byteLength : List Symbol → Nat
  | [] => 0
  | symbol :: rest => symbolWidth symbol + byteLength rest

/-- The value of a byte that continues a character. -/
def continuation? (byte : Nat) : Option Nat :=
  if 0x80 ≤ byte && byte < 0xC0 then some (byte - 0x80) else none

/-- The character with a code point that needs as many bytes as it was written with. -/
def encoded? (least n : Nat) : Option Char :=
  if h : n.isValidChar then if least ≤ n then some (Char.ofNatAux n h) else none else none

/-- The character at the start of bytes, and how many bytes follow its first one. -/
def leadingChar? (byte : Nat) (rest : List Nat) : Option (Char × Nat) :=
  if byte < 0x80 then (encoded? 0 byte).map (·, 0)
  else
    match byte / 0x10, rest with
    | 0xC, b :: _ => do return (← encoded? 0x80 (byte % 0x20 * 0x40 + (← continuation? b)), 1)
    | 0xD, b :: _ => do return (← encoded? 0x80 (byte % 0x20 * 0x40 + (← continuation? b)), 1)
    | 0xE, b :: c :: _ => do
      let n := (byte % 0x10 * 0x40 + (← continuation? b)) * 0x40 + (← continuation? c)
      return (← encoded? 0x800 n, 2)
    | 0xF, b :: c :: d :: _ => do
      let n := (byte % 0x10 * 0x40 + (← continuation? b)) * 0x40 + (← continuation? c)
      return (← encoded? 0x10000 (n * 0x40 + (← continuation? d)), 3)
    | _, _ => none

/-- The symbols of bytes. -/
def symbols : List Nat → List Symbol
  | [] => []
  | byte :: rest =>
    match leadingChar? byte rest with
    | some (c, more) => some c :: symbols (rest.drop more)
    | none => none :: symbols rest
  termination_by bytes => bytes.length
  decreasing_by
    all_goals simp only [List.length_drop, List.length_cons]; omega

/-- Whether a byte may be the second one of a character of three or four bytes. -/
def mayFollow (byte second : Nat) : Bool :=
  (continuation? second).isSome &&
    if byte = 0xE0 then 0xA0 ≤ second
    else if byte = 0xED then second < 0xA0
    else if byte = 0xF0 then 0x90 ≤ second
    else if byte = 0xF4 then second < 0x90
    else 0xE0 < byte && byte < 0xF4

/-- How many bytes behind the first one belong to a character that is broken off: as many as a
character may go on with. -/
def brokenTail (byte : Nat) : List Nat → Nat
  | [] => 0
  | [second] => if mayFollow byte second then 1 else 0
  | second :: third :: _ =>
    if !mayFollow byte second then 0
    else if 0xF0 ≤ byte && (continuation? third).isSome then 2
    else 1

/-- The text of bytes. A character that is broken off is replaced as a whole, and so is each other
byte that is part of no character. -/
def lossy : List Nat → List Char
  | [] => []
  | byte :: rest =>
    let (c, more) := (leadingChar? byte rest).getD ('\ufffd', brokenTail byte rest)
    c :: lossy (rest.drop more)
  termination_by bytes => bytes.length
  decreasing_by
    all_goals simp only [List.length_drop, List.length_cons]; omega

end Folio.Text
