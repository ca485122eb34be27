import Folio.Text.CodePoints
import Folio.Text.Symbol

/-!
# Reading JSON text

The lexical part of JSON, and values that are passed over. A fault is one of three: the text ends
too early, it is no JSON, or it is not the data that was asked for; the first fault in the text
counts.
-/

namespace Folio.Json

open Folio.Text (Symbol byteLength hexDigit?)

/-- What is wrong with a text. -/
inductive Fault where
  | syntaxError
  | wrongData
  | endOfText
  deriving Repr, DecidableEq, Inhabited

/-- Reads a part of a text and leaves the rest. -/
abbrev Reader (α : Type) := List Symbol → Except Fault (α × List Symbol)

/-- White space between tokens. -/
def isBlank (c : Symbol) : Bool :=
  c = some ' ' || c = some '\n' || c = some '\t' || c = some '\r'

/-- A text without white space in front. -/
def dropBlank (s : List Symbol) : List Symbol := s.dropWhile isBlank

/-- A decimal digit. -/
def isDigit : Symbol → Bool
  | some c => c.isDigit
  | none => false

/-- The digits at the start of a text. -/
def leadingDigits (s : List Symbol) : List Nat :=
  (s.takeWhile isDigit).map fun c => (c.getD '0').toNat - 48

/-- Pass given characters. -/
def passWord : List Char → List Symbol → Except Fault (List Symbol)
  | [], s => .ok s
  | _ :: _, [] => .error .endOfText
  | c :: word, d :: rest => if d = some c then passWord word rest else .error .syntaxError

/-- The four hexadecimal digits of an escape; they are missed only where four bytes are left. -/
def fourDigits (s : List Symbol) : Except Fault Nat :=
  if byteLength s < 4 then .error .endOfText
  else
    match (s.take 4).mapM fun c => c.bind hexDigit? with
    | some digits => .ok (digits.foldl (fun n d => 16 * n + d) 0)
    | none => .error .syntaxError

/-- The character that a letter after a backslash stands for. -/
def namedEscape? (c : Char) : Option Char :=
  match c with
  | '"' => some '"'
  | '\\' => some '\\'
  | '/' => some '/'
  | 'b' => some '\x08'
  | 'f' => some '\x0c'
  | 'n' => some '\n'
  | 'r' => some '\r'
  | 't' => some '\t'
  | _ => none

/-- The first half of a character beyond the basic plane. -/
def isHighHalf (n : Nat) : Bool := 0xD800 ≤ n && n ≤ 0xDBFF

/-- The second half of a character beyond the basic plane. -/
def isLowHalf (n : Nat) : Bool := 0xDC00 ≤ n && n ≤ 0xDFFF

/-- The character behind `\u`, and how many symbols spell it. Halves come in pairs. -/
def unicodeEscape (s : List Symbol) : Except Fault (Char × Nat) := do
  let n ← fourDigits s
  if isLowHalf n then throw .syntaxError
  if !isHighHalf n then return (Char.ofNat n, 4)
  let s := s.drop 4
  let s ← passWord ['\\', 'u'] s
  let m ← fourDigits s
  if !isLowHalf m then throw .syntaxError
  return (Char.ofNat ((n - 0xD800) * 0x400 + (m - 0xDC00) + 0x10000), 10)

/-- The character behind a backslash, and how many symbols spell it. -/
def escape : List Symbol → Except Fault (Char × Nat)
  | [] => .error .endOfText
  | c :: rest =>
    if c = some 'u' then (unicodeEscape rest).map fun (d, n) => (d, n + 1)
    else
      match c.bind namedEscape? with
      | some d => .ok (d, 1)
      | none => .error .syntaxError

/-- An escape whose character does not matter, so that halves may stand alone: how many symbols
spell it. -/
def looseEscape : List Symbol → Except Fault Nat
  | [] => .error .endOfText
  | c :: rest =>
    if c = some 'u' then (fourDigits rest).map fun _ => 5
    else if (c.bind namedEscape?).isSome then .ok 1
    else .error .syntaxError

/-- A control character, which must be escaped. -/
def isControl : Symbol → Bool
  | some c => c.toNat < 32
  | none => false

/-- The symbols of a text up to its closing quote. -/
def textSymbols : Reader (List Symbol)
  | [] => .error .endOfText
  | c :: rest =>
    if c = some '"' then .ok ([], rest)
    else if c = some '\\' then
      match escape rest with
      | .error fault => .error fault
      | .ok (d, n) => (textSymbols (rest.drop n)).map fun (more, rest) => (some d :: more, rest)
    else if isControl c then .error .syntaxError
    else (textSymbols rest).map fun (more, rest) => (c :: more, rest)
  termination_by s => s.length
  decreasing_by
    all_goals simp only [List.length_drop, List.length_cons]; omega

/-- A text behind its opening quote. Bytes that are no characters are refused at its end. -/
def text : Reader String := fun s => do
  let (symbols, rest) ← textSymbols s
  match symbols.mapM id with
  | some chars => return (String.ofList chars, rest)
  | none => throw .syntaxError

/-- Pass a text behind its opening quote. -/
def passText : List Symbol → Except Fault (List Symbol)
  | [] => .error .endOfText
  | c :: rest =>
    if c = some '"' then .ok rest
    else if c = some '\\' then
      match looseEscape rest with
      | .error fault => .error fault
      | .ok n => passText (rest.drop n)
    else if isControl c then .error .syntaxError
    else passText rest
  termination_by s => s.length
  decreasing_by
    all_goals simp only [List.length_drop, List.length_cons]; omega

/-- The largest natural number that is kept exactly. -/
def maxNumber : Nat := 18446744073709551615

/-- Digits put behind a number as long as it stays exact, and how many digits are left over. -/
def extend (n : Nat) : List Nat → Nat × Nat
  | [] => (n, 0)
  | d :: digits =>
    if 10 * n + d ≤ maxNumber then extend (10 * n + d) digits else (n, digits.length + 1)

/-- The number nearest to another one that has at most 53 binary digits before its last zeros. Of
two as near, it is the one with an even last digit. -/
def roundBinary (n : Nat) : Nat :=
  let unit := Nat.pow 2 (n.log2 - 52)
  let below := n / unit
  let double := 2 * (n % unit)
  let rounded := if unit < double || double = unit && below % 2 = 1 then below + 1 else below
  rounded * unit

/-- Whether a number with a decimal exponent is too large for a binary fraction of 64 bits. Both the
number and the power of ten are rounded to such fractions first. -/
def tooLarge (n : Nat) (exponent : Int) : Bool :=
  n ≠ 0 && (308 < exponent ||
    (0 ≤ exponent &&
      Nat.pow 2 1024 - Nat.pow 2 970 ≤
        roundBinary n * roundBinary (Nat.pow 10 exponent.toNat)))

/-- The end of a number that is no natural number. -/
def inexact (n : Nat) (exponent : Int) (rest : List Symbol) :
    Except Fault (Option Nat × List Symbol) :=
  if tooLarge n exponent then .error .syntaxError else .ok (none, rest)

/-- The exponent of a number, behind its letter. -/
def exponentPart (n : Nat) (shift : Int) (s : List Symbol) :
    Except Fault (Option Nat × List Symbol) :=
  let (negative, s) :=
    match s with
    | some '+' :: rest => (false, rest)
    | some '-' :: rest => (true, rest)
    | _ => (false, s)
  match s with
  | [] => .error .endOfText
  | c :: _ =>
    if !isDigit c then .error .syntaxError
    else
      let digits := leadingDigits s
      let rest := s.drop digits.length
      let exponent : Nat := digits.foldl (fun n d => 10 * n + d) 0
      if Nat.pow 2 31 ≤ exponent then
        if n ≠ 0 && !negative then .error .syntaxError else .ok (none, rest)
      else inexact n (if negative then shift - exponent else shift + exponent) rest

/-- The fraction of a number, behind its point. -/
def fractionPart (n : Nat) (shift : Int) (s : List Symbol) :
    Except Fault (Option Nat × List Symbol) :=
  let digits := leadingDigits s
  let rest := s.drop digits.length
  if digits.isEmpty then .error (if s.isEmpty then .endOfText else .syntaxError)
  else
    let (n, dropped) := extend n digits
    let shift := shift - (digits.length - dropped : Nat)
    match rest with
    | some 'e' :: rest => exponentPart n shift rest
    | some 'E' :: rest => exponentPart n shift rest
    | _ => inexact n shift rest

/-- A number without its sign: a natural number of 64 bits, or `none` for any other. -/
def unsigned : Reader (Option Nat)
  | [] => .error .endOfText
  | c :: rest =>
    if !isDigit c then .error .syntaxError
    else if c = some '0' && rest.head?.any isDigit then .error .syntaxError
    else
      let digits := leadingDigits (c :: rest)
      let rest := (c :: rest).drop digits.length
      let (n, dropped) := extend 0 digits
      match rest with
      | some '.' :: rest => fractionPart n dropped rest
      | some 'e' :: rest => exponentPart n dropped rest
      | some 'E' :: rest => exponentPart n dropped rest
      | _ => if dropped = 0 then .ok (some n, rest) else inexact n dropped rest

/-- A number. -/
def number : Reader (Option Nat)
  | some '-' :: rest => (unsigned rest).map fun (_, rest) => (none, rest)
  | s => unsigned s

/-- Pass at least one digit. -/
def passDigits (s : List Symbol) : Except Fault (List Symbol) :=
  let digits := leadingDigits s
  if digits.isEmpty then .error .syntaxError else .ok (s.drop digits.length)

/-- Pass an exponent, if there is one. -/
def passExponent (s : List Symbol) : Except Fault (List Symbol) :=
  match s with
  | c :: rest =>
    if c = some 'e' || c = some 'E' then
      match rest with
      | some '+' :: rest => passDigits rest
      | some '-' :: rest => passDigits rest
      | _ => passDigits rest
    else .ok s
  | [] => .ok s

/-- Pass a number; one that the text cuts off is no number. -/
def passNumber (s : List Symbol) : Except Fault (List Symbol) := do
  let s := match s with | some '-' :: rest => rest | _ => s
  let rest ← passDigits s
  if s.head? = some (some '0') && 1 < (leadingDigits s).length then throw .syntaxError
  match rest with
  | some '.' :: rest => passExponent (← passDigits rest)
  | _ => passExponent rest

/-- Pass a value that is no list and no object; `c` is its first symbol. -/
def passScalar (c : Symbol) (rest : List Symbol) : Except Fault (List Symbol) :=
  match c with
  | some 'n' => passWord "ull".toList rest
  | some 't' => passWord "rue".toList rest
  | some 'f' => passWord "alse".toList rest
  | some '"' => passText rest
  | _ => if c = some '-' || isDigit c then passNumber (c :: rest) else .error .syntaxError

/-- A list or an object that is open. -/
inductive Frame where
  | list
  | object
  deriving Repr, DecidableEq

/-- The mark that closes a frame. -/
def Frame.closing : Frame → Symbol
  | .list => some ']'
  | .object => some '}'

/-- What comes next in a value that is passed over. -/
inductive Stage where
  /-- A value. -/
  | value
  /-- The first item or entry of the innermost frame, or its end. -/
  | opened
  /-- A comma, or the end of the innermost frame. -/
  | after
  /-- An item or an entry of the innermost frame. -/
  | member
  deriving Repr, DecidableEq

/-- Pass the name and the colon of an entry. -/
def passName (s : List Symbol) : Except Fault (List Symbol) :=
  match dropBlank s with
  | [] => .error .endOfText
  | c :: rest =>
    if c ≠ some '"' then .error .syntaxError
    else
      match passText rest with
      | .error fault => .error fault
      | .ok rest =>
        match dropBlank rest with
        | [] => .error .endOfText
        | c :: rest => if c = some ':' then .ok rest else .error .syntaxError

/-- Pass what is left of a value, given the frames open in it. The fuel bounds the steps. -/
def passFrom : Nat → Stage → List Frame → List Symbol → Except Fault (List Symbol)
  | 0, _, _, _ => .error .syntaxError
  | fuel + 1, .value, frames, s =>
    match dropBlank s with
    | [] => .error .endOfText
    | c :: rest =>
      if c = some '[' then passFrom fuel .opened (.list :: frames) rest
      else if c = some '{' then passFrom fuel .opened (.object :: frames) rest
      else
        match passScalar c rest with
        | .error fault => .error fault
        | .ok rest => passFrom fuel .after frames rest
  | _ + 1, _, [], s => .ok s
  | fuel + 1, .opened, frame :: frames, s =>
    match dropBlank s with
    | [] => .error .endOfText
    | c :: rest =>
      if c = frame.closing then passFrom fuel .after frames rest
      else passFrom fuel .member (frame :: frames) (c :: rest)
  | fuel + 1, .after, frame :: frames, s =>
    match dropBlank s with
    | [] => .error .endOfText
    | c :: rest =>
      if c = some ',' then passFrom fuel .member (frame :: frames) rest
      else if c = frame.closing then passFrom fuel .after frames rest
      else .error .syntaxError
  | fuel + 1, .member, .list :: frames, s => passFrom fuel .value (.list :: frames) s
  | fuel + 1, .member, .object :: frames, s =>
    match passName s with
    | .error fault => .error fault
    | .ok rest => passFrom fuel .value (.object :: frames) rest

/-- Pass a value, however deep it is. -/
def passValue (s : List Symbol) : Except Fault (List Symbol) :=
  passFrom (3 * s.length + 3) .value [] s

end Folio.Json
