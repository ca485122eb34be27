import Folio.Text.Trait

/-!
# Quoted texts

A text in double quotes as a programmer reads it: quotes, backslashes and line breaks are escaped,
and what cannot be seen, or not on its own, is written by its number. Of the separators only the
space counts as visible.
-/

namespace Folio.Text

/-- The visible characters that came with version 17 of the standard, after the version of the
classes. -/
def laterVisible : CharSet := CharSet.ofTable
  "88F C5C CDC 20C1 2B96 A7CE-A7CF A7D2 A7D4 A7F1 FBC3-FBD2 FD90-FD91 FDC8-FDCE 10940-10959
   10EC5-10EC7 10ED0-10ED8 11B61 11B65 11B67 11DB0-11DDB 11DE0-11DE9 16EA0-16EB8 16EBB-16ED3
   16FF2-16FF6 187F8-187FF 18D09-18D1E 18D80-18DF2 1CCFA-1CCFC 1CEBA-1CED0 1CEE0-1CEF0
   1E6C0-1E6DE 1E6E0-1E6E2 1E6E4-1E6E5 1E6E7-1E6ED 1E6F0-1E6F4 1E6FE-1E6FF 1F6D8 1F777-1F77A
   1F8D0-1F8D8 1FA54-1FA57 1FA8A 1FA8E 1FAC8 1FACD 1FAEA 1FAEF 1FBFA 2B73A-2B73F 2CEA2-2CEAD
   323B0-33479"

/-- The sound marks of half width, which extend the character before them but are seen. -/
def halfWidthMarks : CharSet := CharSet.ofTable "FF9E-FF9F"

/-- The letters without a shape that fill up Korean syllables. -/
def hangulFillers : CharSet := CharSet.ofTable "115F-1160 3164 FFA0"

/-- The characters that cannot be seen. -/
def invisibleSet : CharSet :=
  ((Category.setOf
    [.control, .format, .privateUse, .unassigned, .lineSeparator, .paragraphSeparator,
      .spaceSeparator]).diff (.single 0x20)).diff laterVisible

/-- The characters that are written by their number. -/
def obscureSet : CharSet :=
  (invisibleSet.union hangulFillers).union (Trait.graphemeExtendSet.diff halfWidthMarks)

/-- The characters that are written by their number, for fast search. -/
def obscurePoints : CodePoints := obscureSet.toCodePoints

/-- The escape of a character that has one of its own. -/
def namedEscape? : Char → Option Char
  | '"' => some '"'
  | '\\' => some '\\'
  | '\n' => some 'n'
  | '\r' => some 'r'
  | '\t' => some 't'
  | '\x00' => some '0'
  | _ => none

/-- Whether a character is written by its number. -/
def isObscure (c : Char) : Bool :=
  if (namedEscape? c).isSome then false
  else if c.toNat < 127 then c.toNat < 32
  else obscurePoints.contains c

/-- A character within a quoted text. -/
def quoteChar (c : Char) : List Char :=
  match namedEscape? c with
  | some e => ['\\', e]
  | none =>
    if isObscure c then '\\' :: 'u' :: '\x7b' :: Nat.toDigits 16 c.toNat ++ ['\x7d'] else [c]

/-- A text in quotes. -/
def quotedText (s : List Char) : List Char := '"' :: s.flatMap quoteChar ++ ['"']

end Folio.Text
