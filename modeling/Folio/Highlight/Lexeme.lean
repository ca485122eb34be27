import Folio.Highlight.Grammar

/-!
# Common lexemes

Pieces of code that many languages write alike: numbers, comments, quoted text and its escapes.
-/

namespace Folio.Highlight

namespace Probe

/-- A hexadecimal digit. -/
def isHex (c : Char) : Bool := c.isDigit || ('a' ≤ c && c ≤ 'f') || ('A' ≤ c && c ≤ 'F')

/-- Between one and `most` characters of a class. -/
def upTo (p : Char → Bool) (most : Nat) : Probe := fun _ rest =>
  match (rest.take most).takeWhile p with
  | [] => none
  | taken => some taken.length

/-- Exactly `count` characters of a class. -/
def exactly (p : Char → Bool) (count : Nat) : Probe := fun _ rest =>
  let taken := rest.take count
  if taken.length = count && taken.all p then some count else none

/-- A digit or an underscore. -/
def isDigitMark (c : Char) : Bool := c.isDigit || c = '_'

/-- Digits, with underscores between and after them. -/
def digitRun : Probe := seq (one Char.isDigit) (many isDigitMark)

/-- An exponent of ten. -/
def exponent : Probe :=
  chain [one fun c => c = 'e' || c = 'E', maybe (one fun c => c = '+' || c = '-'), digitRun]

/-- Digits of a number that stand at the start of a word. -/
def digits : Probe := wordOf Char.isDigit isDigitMark

/-- A number in a base that a sign tells. -/
def basedNumber : Probe :=
  chain [after fun c => !inWord c, oneOf ["0x", "0X", "0o", "0O", "0b", "0B"],
    run fun c => isHex c || c = '_']

/-- A decimal number with an optional fraction and exponent. -/
def decimalNumber : Probe :=
  chain [digits, maybe (chain [lit ".", notAhead (lit "."),
    notAhead (one fun c => inWord c && !c.isDigit), many isDigitMark]), maybe exponent]

/-- A number that starts with its fraction. -/
def fractionNumber : Probe :=
  chain [after fun c => !inWord c && c ≠ '.', lit ".", digitRun, maybe exponent]

/-- A number of any of these forms. -/
def number : Probe := or basedNumber (or decimalNumber fractionNumber)

/-- An escape of up to three octal digits, of hexadecimal digits, or of one of some characters. -/
def escapeOf (letters : List Char) : Probe :=
  chain [lit "\\",
    or (one letters.contains) (or (upTo (fun c => '0' ≤ c && c ≤ '7') 3)
      (or (seq (lit "x") (upTo isHex 2)) (or (seq (lit "u") (exactly isHex 4))
        (seq (lit "U") (exactly isHex 8)))))]

/-- A backslash with the character after it. -/
def anyEscape : Probe := seq (lit "\\") (one fun _ => true)

end Probe

namespace Rule

variable {Context : Type}

/-- A comment from a sign to the end of its line. -/
def lineComment (signs : List String) : Rule Context :=
  token .comment (.seq (.oneOf signs) .restOfLine)

/-- A sign that is neither blank nor part of a word, by itself. -/
def sign : Rule Context := mark (.one fun c => !Probe.inWord c && !Text.isBlank c)

end Rule

end Folio.Highlight
