import Folio.Highlight.Lexeme

/-!
# Lua

Statements and expressions; the parameters of functions have a context of their own.
-/

namespace Folio.Highlight.Lua

open Probe Rule

/-- The contexts of the grammar. -/
inductive Context where
  | code
  | comment
  | function
  | parameters
  | text (quote : String)
  | long

/-- Words that are keywords in every place. -/
def keywords : List String :=
  ["break", "do", "else", "elseif", "end", "for", "goto", "if", "in", "local", "repeat", "return",
    "then", "until", "while"]

/-- Functions that are always at hand. -/
def library : List String :=
  ["assert", "collectgarbage", "dofile", "error", "getmetatable", "ipairs", "load", "loadfile",
    "loadstring", "next", "pairs", "pcall", "print", "rawequal", "rawget", "rawset", "require",
    "select", "setmetatable", "tonumber", "tostring", "type", "unpack", "xpcall"]

/-- That an argument follows. -/
def called : Probe := ahead (seq blanks (oneOf ["(", "\"", "'", "\x7b"]))

/-- The rules of each context. -/
def rules : Context → List (Rule Context)
  | .code =>
    [opens .comment (lit "--[[") .comment, lineComment ["--"],
      opens .plain (lit "\"") (.text "\""), opens .plain (lit "'") (.text "'"),
      opens .plain (lit "[[") .long, opens .keyword (word ["function"]) .function,
      token .constant number, token .constant (word ["nil", "true", "false"]),
      mark (word ["and", "or", "not"]), token .keyword (word keywords),
      token .variable (word ["self"]), token .library (seq (word library) called),
      token .function (seq identifier called),
      parts [(.plain, lit "."), (.plain, seq identifier (notAhead (lit "(")))],
      token .variable identifier, sign]
  | .comment => [closes .comment (lit "]]")]
  | .function =>
    [(token .plain (lit "(")).thenTurn (.swap [.parameters]),
      token .variable (seq identifier (ahead (oneOf [".", ":"]))), token .function identifier,
      sign, leave lineEnd]
  | .parameters => [closes .plain (lit ")"), mark identifier, sign]
  | .text quote => [closes .plain (lit quote), token .escape anyEscape, closes .illegal (lit "\n")]
  | .long => [closes .plain (lit "]]")]

/-- The role of text that no rule gives one. -/
def ground : Context → Option Role
  | .comment => some .comment
  | .text _ | .long => some .string
  | _ => none

/-- The grammar. -/
def grammar : Grammar := ⟨Context, .code, ground, rules⟩

end Folio.Highlight.Lua
