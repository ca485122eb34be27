import Folio.Highlight.Lexeme

/-!
# Go

Declarations, statements and expressions. The parameters of functions and the fields of structures
have contexts of their own; there a name in front of a type is a variable.
-/

namespace Folio.Highlight.Go

open Probe Rule

/-- The contexts of the grammar. -/
inductive Context where
  | code
  | comment
  | packageName
  | function
  | functionName
  | parameters
  | results
  | group
  | typeName
  | fields
  | text
  | raw
  | rune

/-- Words that are keywords in every place. -/
def keywords : List String :=
  ["break", "case", "chan", "const", "continue", "default", "defer", "else", "fallthrough", "for",
    "go", "goto", "if", "import", "interface", "map", "range", "return", "select", "struct",
    "switch", "var"]

/-- Types that are always at hand. -/
def types : List String :=
  ["bool", "byte", "complex64", "complex128", "error", "float32", "float64", "int", "int8",
    "int16", "int32", "int64", "rune", "string", "uint", "uint8", "uint16", "uint32", "uint64",
    "uintptr"]

/-- Functions that are always at hand. -/
def builtins : List String :=
  ["append", "cap", "close", "complex", "copy", "delete", "imag", "len", "make", "new", "panic",
    "print", "println", "real", "recover"]

/-- That an opening parenthesis follows. -/
def called : Probe := ahead (lit "(")

/-- A place for a value in a format. -/
def placeholder : Probe :=
  chain [lit "%", many (fun c => "-+ #0".toList.contains c), many Char.isDigit,
    maybe (seq (lit ".") (many Char.isDigit)), one "bcdefgopqstvxEGTUX%".toList.contains]

/-- Comments, quoted text and numbers. -/
def lexemes : List (Rule Context) :=
  [lineComment ["//"], opens .comment (lit "/*") .comment, opens .plain (lit "\"") .text,
    opens .plain (lit "\x60") .raw, opens .plain (lit "'") .rune, token .constant number]

/-- A structure, with its fields to come. -/
def record : Rule Context :=
  (parts [(.keyword, word ["struct"]), (.plain, blanks), (.plain, lit "\x7b")]).thenTurn
    (.push [.fields])

/-- Words that types are made of, and lexemes. -/
def typeWords : List (Rule Context) :=
  lexemes ++ [record, opens .keyword (word ["func"]) .function, token .keyword (word types),
    token .keyword (word keywords)]

/-- A name in front of a type, which may be that of the last of more values. -/
def named : List (Rule Context) :=
  let start : Probe := one fun c => inWord c || "*[(<".toList.contains c
  [parts [(.variable, identifier), (.plain, seq blanks (lit "..."))],
    parts [(.variable, identifier),
      (.plain, chain [run fun c => c = ' ' || c = '\t', ahead start])]]

/-- Expressions and statements. -/
def expression : List (Rule Context) :=
  lexemes ++
  [opens .keyword (word ["package"]) .packageName, opens .keyword (word ["func"]) .function,
    opens .keyword (word ["type"]) .typeName,
    record, token .constant (word ["true", "false", "nil", "iota"]), token .keyword (word keywords),
    token .keyword (word types), token .library (seq (word builtins) called),
    token .function (seq identifier called), mark identifier, sign]

/-- What types are made of. -/
def typeParts : List (Rule Context) :=
  typeWords ++ [mark identifier, opens .plain (lit "(") .group]

/-- A function's name, with its parameters and results to come. -/
def namedFunction : Rule Context :=
  ⟨[⟨identifier, some .function⟩, ⟨lit "(", none⟩], .swap [.results, .parameters]⟩

/-- The results of a function, up to what cannot be one of them. -/
def results : List (Rule Context) :=
  [leave (oneOf ["\x7b", "\x7d", ")", "]", ",", ";", "="]), leave lineEnd] ++ typeParts

/-- The rules of each context. -/
def rules : Context → List (Rule Context)
  | .code => expression
  | .comment => [closes .comment (lit "*/")]
  | .packageName => [leave lineEnd, leave (oneOf [";", "/"])]
  | .function =>
    [namedFunction,
      (token .plain (lit "(")).thenTurn (.swap [.functionName, .parameters])] ++ results
  | .functionName => namedFunction :: results
  | .parameters =>
    [closes .plain (lit ")"), opens .plain (lit "(") .group] ++ typeWords ++ named ++
      [mark identifier, sign]
  | .results => results
  | .group => closes .plain (lit ")") :: typeParts
  | .typeName => [(mark identifier).thenTurn .pop, leave lineEnd, leave (lit "(")]
  | .fields =>
    [closes .plain (lit "\x7d")] ++ typeWords ++ named ++ [mark identifier, sign]
  | .text =>
    [closes .plain (lit "\""), token .escape (escapeOf "\\\"abfnrtv'".toList),
      token .constant placeholder, closes .illegal (lit "\n")]
  | .raw => [closes .plain (lit "\x60")]
  | .rune =>
    [closes .plain (lit "'"), token .escape (escapeOf "\\\"abfnrtv'".toList), leave lineEnd]

/-- The role of text that no rule gives one. -/
def ground : Context → Option Role
  | .comment => some .comment
  | .text | .raw | .rune => some .string
  | _ => none

/-- The grammar. -/
def grammar : Grammar := ⟨Context, .code, ground, rules⟩

end Folio.Highlight.Go
