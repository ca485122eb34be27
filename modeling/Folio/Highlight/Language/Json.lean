import Folio.Highlight.Lexeme

/-!
# JSON

Values with comments between them. What stands in a list or a mapping where a separator, a key or a
value is due is marked as a fault, and reading goes on after it.
-/

namespace Folio.Highlight.Json

open Probe Rule

/-- The contexts of the grammar. -/
inductive Context where
  | value
  | list
  | mapping
  /-- Behind the colon of a mapping. -/
  | pairValue
  /-- From the first character behind a colon on. -/
  | pairValueRest
  /-- Behind the value of a mapping. -/
  | pairEnd
  | comment
  | text

/-- Comments, which may stand everywhere but in texts. -/
def comments : List (Rule Context) :=
  [opens .comment (lit "/*") .comment, lineComment ["//"]]

/-- A number, without zeros in front. -/
def number : Probe :=
  chain [maybe (lit "-"), or (lit "0") (run Char.isDigit),
    maybe (seq (lit ".") (run Char.isDigit)),
    maybe (chain [oneOf ["e", "E"], maybe (oneOf ["+", "-"]), run Char.isDigit])]

/-- Values. -/
def values : List (Rule Context) :=
  [token .constant (word ["true", "false", "null"]), token .constant number,
    opens .plain (lit "\"") .text, opens .plain (lit "[") .list,
    opens .plain (lit "\x7b") .mapping]

/-- A character that is neither blank nor a given one. -/
def other (c : Char) : Probe := one fun d => !Text.isBlank d && d ≠ c

/-- The rules of each context. -/
def rules : Context → List (Rule Context)
  | .value => comments ++ values
  | .list =>
    comments ++ closes .plain (lit "]") :: values ++
      [token .plain (lit ","), token .illegal (other ']')]
  | .mapping =>
    comments ++
      [closes .plain (lit "\x7d"), opens .plain (lit "\"") .text, opens .plain (lit ":") .pairValue,
        token .illegal (other '\x7d')]
  | .pairValue =>
    comments ++
      [closes .illegal (or (lit ",") (seq (maybe (one Text.isBlank)) (ahead (lit "\x7d")))),
        ⟨[⟨ahead (one fun c => !Text.isBlank c), none⟩], .swap [.pairValueRest]⟩]
  | .pairValueRest => comments ++ values ++ [⟨[], .swap [.pairEnd]⟩]
  | .pairEnd =>
    comments ++
      [closes .plain (lit ","), closes .plain (seq (many Text.isBlank) (ahead (lit "\x7d"))),
        closes .illegal (or (chain [one Text.isBlank, notAhead (oneOf ["//", "/*"]),
          ahead (other ',')]) (other ','))]
  | .comment => [closes .comment (lit "*/")]
  | .text =>
    [closes .plain (lit "\""),
      token .escape (seq (lit "\\") (or (one "\"\\/bfnrt".toList.contains)
        (seq (lit "u") (exactly isHex 4)))),
      token .illegal (seq (lit "\\") (one (· ≠ '\n'))), closes .illegal (lit "\n")]

/-- The role of text that no rule gives one. -/
def ground : Context → Option Role
  | .comment => some .comment
  | .text => some .string
  | _ => none

/-- The grammar. -/
def grammar : Grammar := ⟨Context, .value, ground, rules⟩

end Folio.Highlight.Json
