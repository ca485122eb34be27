import Folio.Highlight.Lexeme

/-!
# Ruby

Definitions, statements and expressions, with symbols, kinds of variables told by their signs, and
text with places for values.
-/

namespace Folio.Highlight.Ruby

open Probe Rule

/-- The contexts of the grammar. -/
inductive Context where
  | code
  | comment
  | definition
  | parameters
  | openParameters
  | defaultValue
  | classHead
  | double
  | single
  | place
  | regex

/-- Words that are keywords in every place. -/
def keywords : List String :=
  ["BEGIN", "END", "alias", "begin", "break", "case", "do", "else", "elsif", "end", "ensure",
    "for", "if", "in", "next", "redo", "rescue", "retry", "return", "then", "undef", "unless",
    "until", "when", "while", "yield", "and", "or", "not", "module"]

/-- Methods that declare or steer. -/
def special : List String :=
  ["attr", "attr_accessor", "attr_reader", "attr_writer", "catch", "extend", "fail", "gem",
    "include", "initialize", "load", "loop", "module_function", "new", "prepend", "private",
    "protected", "public", "raise", "refine", "require", "require_relative", "throw", "using"]

/-- Functions that are always at hand. -/
def library : List String :=
  ["abort", "at_exit", "binding", "caller", "eval", "exec", "exit", "fork", "format", "gets",
    "lambda", "open", "p", "proc", "print", "printf", "putc", "puts", "rand", "readline",
    "readlines", "select", "sleep", "spawn", "sprintf", "srand", "system", "test", "trap", "warn"]

/-- A name with an optional sign at its end. -/
def methodName : Probe := seq identifier (maybe (seq (oneOf ["?", "!"]) (notAhead (lit "="))))

/-- A name that starts with a capital. -/
def constantName : Probe := wordOf Char.isUpper inWord

/-- Expressions and statements. -/
def expression : List (Rule Context) :=
  [token .comment (seq (lit "#") restOfLine),
    opens .comment (chain [lineStart, lit "=begin"]) .comment,
    opens .plain (lit "\"") .double, opens .plain (lit "'") .single,
    opens .keyword (word ["def"]) .definition, opens .keyword (word ["class"]) .classHead,
    token .constant number, token .constant (word ["nil", "true", "false"]),
    token .variable (word ["self", "super", "__FILE__", "__LINE__"]),
    parts [(.string, seq identifier (lit ":")), (.plain, notAhead (lit ":"))],
    token .string (chain [after fun c => c ≠ ':' && !inWord c, lit ":", notAhead (lit ":"),
      methodName]),
    token .keyword (seq (word keywords) (notAhead (lit "?"))),
    parts [(.plain, maybe (lit ".")),
      (.function, seq (word special) (notAhead (oneOf ["?", "!"])))],
    parts [(.plain, oneOf ["@@", "@", "$"]), (.variable, identifier)],
    parts [(.plain, seq (notAhead (lit "..")) (lit ".")), (.plain, methodName)],
    token .library (word library), token .variable constantName,
    ⟨[⟨lit "|", none⟩, ⟨identifier, some .variable⟩, ⟨ahead (oneOf ["|", ","]), none⟩], .stay⟩,
    ⟨[⟨one "(,=~".toList.contains, none⟩, ⟨blanks, none⟩, ⟨lit "/", some .plain⟩],
      .push [.regex]⟩, sign]

/-- The rules of each context. -/
def rules : Context → List (Rule Context)
  | .code => expression
  | .comment => [closes .comment (chain [lineStart, lit "=end"])]
  | .definition =>
    [⟨[⟨word ["self"], some .variable⟩, ⟨lit ".", none⟩], .stay⟩,
      (token .function (seq methodName (ahead (lit "(")))).thenTurn (.swap [.parameters]),
      (token .function methodName).thenTurn (.swap [.openParameters]), leave lineEnd]
  | .parameters =>
    [closes .plain (lit ")"), opens .plain (lit "=") .defaultValue, token .variable identifier,
      sign]
  | .defaultValue => leave (oneOf [",", ")"]) :: expression
  | .openParameters => [leave lineEnd, leave (lit ";"), token .variable identifier, sign]
  | .classHead =>
    [leave lineEnd, leave (lit ";"),
      ⟨[⟨lit "<", none⟩, ⟨blanks, none⟩, ⟨constantName, some .string⟩], .pop⟩,
      token .className constantName]
  | .double =>
    [closes .plain (lit "\""), token .escape anyEscape, ⟨[⟨lit "#\x7b", none⟩], .push [.place]⟩]
  | .single => [closes .plain (lit "'"), token .escape (oneOf ["\\'", "\\\\"])]
  | .place => ⟨[⟨lit "\x7d", none⟩], .pop⟩ :: expression
  | .regex => [closes .plain (lit "/"), token .escape anyEscape, leave lineEnd]

/-- The role of text that no rule gives one. -/
def ground : Context → Option Role
  | .comment => some .comment
  | .classHead => some .classBody
  | .double | .single => some .string
  | .regex => some .escape
  | _ => none

/-- The grammar. -/
def grammar : Grammar := ⟨Context, .code, ground, rules⟩

end Folio.Highlight.Ruby
