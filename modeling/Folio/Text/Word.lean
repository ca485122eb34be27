import Folio.Text.Trait

/-!
# Words

The characters that words are made of: alphabetic characters, marks, decimal digits, connectors and
joining controls. Letters, digits and underscores are the ASCII ones among them.
-/

namespace Folio.Text

/-- The alphabetic characters. -/
def alphabeticSet : CharSet := Trait.alphabetic.set

/-- The numeric characters. -/
def numericSet : CharSet := Category.setOf Category.numbers

/-- The characters that words are made of. -/
def wordSet : CharSet :=
  alphabeticSet.union ((Category.setOf
    (.decimalNumber :: .connectorPunctuation :: Category.marks)).union Trait.joinControl.set)

/-- The alphabetic characters, for fast search. -/
def alphabeticPoints : CodePoints := alphabeticSet.toCodePoints

/-- The numeric characters, for fast search. -/
def numericPoints : CodePoints := numericSet.toCodePoints

/-- The characters of words, for fast search. -/
def wordPoints : CodePoints := wordSet.toCodePoints

/-- Whether a character is alphabetic. -/
def isAlphabetic (c : Char) : Bool :=
  if c.toNat < 128 then c.isAlpha else alphabeticPoints.contains c

/-- Whether a character is a digit or another number. -/
def isNumeric (c : Char) : Bool :=
  if c.toNat < 128 then c.isDigit else numericPoints.contains c

/-- An ASCII letter, a digit or an underscore. -/
def isAsciiWord (c : Char) : Bool := c.isAlphanum || c = '_'

/-- Whether a character is part of words. -/
def isWordChar (c : Char) : Bool :=
  if c.toNat < 128 then isAsciiWord c else wordPoints.contains c

end Folio.Text
