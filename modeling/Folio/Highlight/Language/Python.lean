import Folio.Highlight.Lexeme

/-!
# Python

Statements and expressions, with parameters, call arguments and class heads in contexts of their
own. Quoted text comes plain, raw or with fields in it, on one line or over several.
-/

namespace Folio.Highlight.Python

open Probe Rule

/-- How the text between quotes is read. -/
inductive Quoting where
  | plain
  | raw
  | fields
  | rawFields
  deriving DecidableEq

/-- The contexts of the grammar. -/
inductive Context where
  | code
  | definition
  | parameters
  | parameterValue
  | inlineParameters
  | arguments
  | group
  | loopTarget
  | decorator
  | classHead
  | bases
  | docstring (quote : String)
  | text (quote : String) (quoting : Quoting)
  | field

/-- Words that are keywords in every place. -/
def keywords : List String :=
  ["if", "elif", "else", "while", "return", "yield", "try", "except", "finally", "raise", "with",
    "break", "continue", "pass", "import", "from", "as", "global", "nonlocal", "assert", "del",
    "async", "await"]

/-- Words for constants. -/
def constants : List String :=
  ["True", "False", "None", "Ellipsis", "NotImplemented", "__debug__"]

/-- Words that are operators. -/
def operators : List String := ["and", "or", "not", "in", "is"]

/-- Functions that are always at hand. -/
def builtins : List String :=
  ["__import__", "abs", "all", "any", "ascii", "bin", "breakpoint", "callable", "chr", "compile",
    "delattr", "dir", "divmod", "enumerate", "eval", "exec", "filter", "format", "getattr",
    "globals", "hasattr", "hash", "help", "hex", "id", "input", "isinstance", "issubclass", "iter",
    "len", "locals", "map", "max", "min", "next", "oct", "open", "ord", "pow", "print", "range",
    "repr", "reversed", "round", "setattr", "sorted", "sum", "vars", "zip"]

/-- Types that are always at hand. -/
def types : List String :=
  ["bool", "bytearray", "bytes", "classmethod", "complex", "dict", "float", "frozenset", "int",
    "list", "memoryview", "object", "property", "set", "slice", "staticmethod", "str", "super",
    "tuple", "type"]

/-- Types of faults that are always at hand, without the word that most of them end with. -/
def faults : List String :=
  ["Arithmetic", "Assertion", "Attribute", "BlockingIO", "BrokenPipe", "Buffer", "ChildProcess",
    "ConnectionAborted", "Connection", "ConnectionRefused", "ConnectionReset", "EOF",
    "FileExists", "FileNotFound", "FloatingPoint", "Import", "Indentation", "Index",
    "Interrupted", "IsADirectory", "Key", "Lookup", "Memory", "Name", "NotADirectory",
    "NotImplemented", "OS", "Overflow", "Permission", "ProcessLookup", "Recursion", "Reference",
    "Runtime", "Syntax", "System", "Tab", "Timeout", "Type", "UnboundLocal", "UnicodeDecode",
    "UnicodeEncode", "Unicode", "UnicodeTranslate", "Value", "ZeroDivision"].map (· ++ "Error")

/-- Other types that a program may raise or be warned with. -/
def signals : List String :=
  ["BaseException", "EnvironmentError", "Exception", "GeneratorExit", "KeyboardInterrupt",
    "StopIteration", "StopAsyncIteration", "SystemExit", "BytesWarning", "DeprecationWarning",
    "FutureWarning", "ImportWarning", "PendingDeprecationWarning", "ResourceWarning",
    "RuntimeWarning", "SyntaxWarning", "UnicodeWarning", "UserWarning", "Warning"]

/-- Names between doubled underscores that stand for values, not for functions. -/
def magicValues : List String :=
  ["all", "annotations", "bases", "builtins", "class", "closure", "code", "defaults", "dict", "doc",
    "file", "func", "future", "globals", "kwdefaults", "loader", "members", "metaclass", "methods",
    "module", "mro", "name", "package", "path", "qualname", "self", "slots", "spec", "subclasses",
    "version", "weakref", "wrapped"]

/-- A name that the language itself gives a meaning: one of a function. -/
def magicName : Probe := fun before rest => do
  let n ← identifier before rest
  let name := rest.take n
  let inner := String.ofList ((name.drop 2).take (n - 4))
  if n > 4 && Text.startsWith ['_', '_'] name && Text.startsWith ['_', '_'] name.reverse &&
      !magicValues.contains inner then n
  else none

/-- A name in capitals. -/
def constantName : Probe := fun before rest => do
  let n ← identifier before rest
  let name := rest.take n
  if name.any Char.isUpper && name.all (fun c => c.isUpper || c.isDigit || c = '_') then n
  else none

/-- That an opening parenthesis follows. -/
def called : Probe := ahead (seq blanks (lit "("))

/-- The prefixes of quoted text, with the way in which each is read. -/
def quotingOf (start : List Char) : Option Quoting :=
  match String.ofList (start.map Char.toLower) with
  | "" | "b" | "u" => some .plain
  | "r" | "br" | "rb" | "ur" => some .raw
  | "f" => some .fields
  | "fr" | "rf" => some .rawFields
  | _ => none

/-- A prefix whose text is read in a given way. -/
def quotingSign (quoting : Quoting) : Probe := fun before rest =>
  if before.any inWord then none
  else
    let start := rest.takeWhile Char.isAlpha
    if quotingOf start = some quoting then some start.length else none

/-- The rules that open quoted text. -/
def openText : List (Rule Context) :=
  ["\"\"\"", "'''", "\"", "'"].flatMap fun quote =>
    [.plain, .raw, .fields, .rawFields].map fun quoting =>
      (parts [(.keyword, quotingSign quoting), (.plain, lit quote)]).thenTurn
        (.push [.text quote quoting])

/-- What follows the name in a place for a value that is written with a percent sign. -/
def percentFormat : Probe :=
  let width : Probe := or (lit "*") (many Char.isDigit)
  chain [many "-+#0 ".toList.contains, width, maybe (seq (lit ".") width),
    maybe (one "hlL".toList.contains), one "acdeEfFgGiorsuxX%".toList.contains]

/-- Places for values, written with a percent sign: one that is named, and one that is not. -/
def percentFields : List (Rule Context) :=
  [parts [(.constant, lit "%("), (.variable, many fun c => inWord c || c = ' '),
      (.constant, seq (lit ")") percentFormat)],
    token .constant (seq (lit "%") percentFormat)]

/-- A place for a value, written with braces. -/
def bracedField : Probe :=
  chain [lit "\x7b", many (fun c => inWord c || c = '.' || c = '[' || c = ']'),
    maybe (seq (lit "!") (one fun c => c = 'r' || c = 's' || c = 'a')),
    maybe (seq (lit ":") (many fun c => c ≠ '\x7b' && c ≠ '\x7d' && c ≠ '"' && c ≠ '\n')),
    lit "\x7d"]

/-- The rules inside quoted text. -/
def textRules (quote : String) (quoting : Quoting) : List (Rule Context) :=
  let escapes : List (Rule Context) :=
    match quoting with
    | .plain | .fields =>
      [token .escape (escapeOf ['\\', '\'', '"', 'a', 'b', 'f', 'n', 'r', 't', 'v', '\n'])]
    | .raw | .rawFields => [token .string (seq (lit "\\") (oneOf ["\"", "'", "\\"]))]
  let places : List (Rule Context) :=
    match quoting with
    | .fields | .rawFields =>
      [token .escape (oneOf ["\x7b\x7b", "\x7d\x7d"]), opens .plain (lit "\x7b") .field]
    | .plain => percentFields ++ [token .constant bracedField]
    | .raw => []
  let broken : List (Rule Context) :=
    if quote.length = 1 then [closes .illegal (lit "\n")] else []
  closes .plain (lit quote) :: escapes ++ places ++ broken

/-- Names, from the most special to the least. -/
def names : List (Rule Context) :=
  [parts [(.plain, lit "."), (.library, magicName)],
    (parts [(.plain, lit "."), (.function, seq identifier called),
      (.plain, seq blanks (lit "("))]).thenTurn (.push [.arguments]),
    parts [(.plain, lit "."), (.plain, identifier)],
    (parts [(.library, seq (word builtins) called), (.plain, seq blanks (lit "("))]).thenTurn
      (.push [.arguments]),
    (parts [(.plain, seq (word (types ++ faults ++ signals)) called),
      (.plain, seq blanks (lit "("))]).thenTurn (.push [.arguments]),
    token .plain (word types),
    token .library (word builtins),
    token .variable (word ["self", "cls"]),
    token .library magicName,
    (parts [(.function, seq identifier called), (.plain, seq blanks (lit "("))]).thenTurn
      (.push [.arguments]),
    token .variable constantName,
    mark identifier]

/-- Expressions. -/
def expression : List (Rule Context) :=
  [lineComment ["#"]] ++ openText ++
    [parts [(.constant, number), (.keyword, maybe (one "jJlL".toList.contains))],
      opens .keyword (word ["for"]) .loopTarget,
      opens .keyword (word ["lambda"]) .inlineParameters, token .keyword (word keywords),
      token .constant (word constants),
      mark (word operators)] ++ names ++
    [opens .plain (oneOf ["(", "[", "\x7b"]) .group, mark (run "+-*/%=<>!&|^~@:,;".toList.contains)]

/-- Statements. -/
def statement : List (Rule Context) :=
  (["\"\"\"", "'''"].map fun quote =>
      (parts [(.plain, seq lineStart blanks), (.comment, lit quote)]).thenTurn
        (.push [.docstring quote])) ++
    [opens .plain (chain [lineStart, blanks, lit "@"]) .decorator,
    opens .keyword (word ["def"]) .definition,
    opens .keyword (word ["class"]) .classHead] ++ expression

/-- The rules of each context. -/
def rules : Context → List (Rule Context)
  | .code => statement
  | .definition =>
    [token .library magicName, token .function identifier,
      (token .plain (lit "(")).thenTurn (.swap [.parameters]), leave (lit ":"), leave lineEnd]
  | .parameters =>
    [closes .plain (lit ")"), lineComment ["#"], opens .plain (oneOf [":", "="]) .parameterValue,
      token .variable identifier, mark (oneOf [",", "*", "/"])]
  | .parameterValue =>
    [leave (oneOf [",", ")", ":"]), mark (lit "=")] ++ expression
  | .inlineParameters =>
    [closes .plain (lit ":"), opens .plain (lit "=") .parameterValue, token .variable identifier,
      mark (oneOf [",", "*"]), leave lineEnd]
  | .arguments =>
    [closes .plain (lit ")"),
      parts [(.variable, identifier), (.plain, seq blanks (seq (lit "=") (notAhead (lit "="))))]] ++
      expression
  | .group => closes .plain (oneOf [")", "]", "\x7d"]) :: expression
  | .loopTarget =>
    [closes .keyword (word ["in"]), leave (oneOf [":", ")", "]"]), leave lineEnd] ++ expression
  | .decorator =>
    [token .variable identifier, mark (lit "."), leave (one fun c => !inWord c), leave lineEnd]
  | .classHead =>
    [token .className identifier, (token .classBody (lit "(")).thenTurn (.push [.bases]),
      closes .classBody (lit ":"), leave lineEnd]
  | .bases =>
    [closes .classBody (lit ")"),
      parts [(.variable, identifier), (.plain, seq blanks (lit "="))],
      parts [(.string, identifier), (.classBody, ahead (notAhead (lit ".")))],
      mark (oneOf [",", "."])] ++ expression
  | .docstring quote => [closes .comment (lit quote), token .comment anyEscape]
  | .text quote quoting => textRules quote quoting
  | .field =>
    [closes .plain (lit "\x7d"), token .keyword (seq (lit "!") (oneOf ["r", "s", "a"]))] ++
      expression

/-- The role of text that no rule gives one. -/
def ground : Context → Option Role
  | .docstring _ => some .comment
  | .text _ _ => some .string
  | .field => some .plain
  | .classHead | .bases => some .classBody
  | _ => none

/-- The grammar. -/
def grammar : Grammar := ⟨Context, .code, ground, rules⟩

end Folio.Highlight.Python
