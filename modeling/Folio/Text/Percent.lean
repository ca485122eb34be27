import Folio.Text.CodePoints

/-!
# Percent encoding

A byte is written `%` and two upper-case hexadecimal digits.
-/

namespace Folio.Text

/-- An upper-case hexadecimal digit. -/
def upperHexDigit (n : Nat) : Char := if n < 10 then Char.ofNat (48 + n) else Char.ofNat (55 + n)

/-- The percent escape of a byte. -/
def percentByte (b : UInt8) : List Char :=
  ['%', upperHexDigit (b.toNat / 16), upperHexDigit (b.toNat % 16)]

/-- The percent escapes of a character's UTF-8 bytes. -/
def percentChar (c : Char) : List Char := (String.utf8EncodeChar c).flatMap percentByte

/-- The bytes that a percent-encoded text stands for; a `%` that is not followed by two
hexadecimal digits stands for itself. -/
def percentDecode : List Char → List UInt8
  | [] => []
  | '%' :: h :: l :: rest =>
    match hexDigit? h, hexDigit? l with
    | some a, some b => UInt8.ofNat (16 * a + b) :: percentDecode rest
    | _, _ => 0x25 :: percentDecode (h :: l :: rest)
  | c :: rest => String.utf8EncodeChar c ++ percentDecode rest
termination_by s => s.length

end Folio.Text
