import Folio.Highlight.Lexeme

/-!
# JavaScript

Expressions and statements in one context. Blocks inside a class body and inside the places of a
template are counted, so that the body or the place ends at its own brace.
-/

namespace Folio.Highlight.JavaScript

open Probe Rule

/-- The contexts of the grammar. -/
inductive Context where
  | code
  | block
  | comment
  | definition
  | parameters
  | arrowParameters
  | defaultValue
  | group
  | classHead
  | heritage
  | classBody
  | text (quote : String)
  | template
  | place
  | operand
  | regex
  | regexSet

/-- Words that are keywords in every place. -/
def keywords : List String :=
  ["if", "else", "for", "while", "do", "switch", "case", "default", "break", "continue", "return",
    "throw", "try", "catch", "finally", "import", "export", "from", "as", "with", "await", "yield",
    "async", "var", "let", "const", "static", "get", "set", "debugger", "enum"]

/-- Words that are operators. -/
def wordOperators : List String := ["new", "typeof", "instanceof", "in", "of", "delete", "void"]

/-- Words for constants. -/
def constants : List String := ["true", "false", "null", "undefined", "NaN", "Infinity"]

/-- Classes that are always at hand. -/
def classes : List String :=
  ["Array", "ArrayBuffer", "BigInt", "Boolean", "DataView", "Date", "Error", "EvalError",
    "Float32Array", "Float64Array", "Function", "Int16Array", "Int32Array", "Int8Array", "Map",
    "Number", "Object", "Promise", "Proxy", "RangeError", "ReferenceError", "RegExp", "Set",
    "SharedArrayBuffer", "String", "Symbol", "SyntaxError", "TypeError", "URIError",
    "Uint16Array", "Uint32Array", "Uint8Array", "Uint8ClampedArray", "WeakMap", "WeakSet"]

/-- Objects that are always at hand. -/
def objects : List String :=
  ["Atomics", "Intl", "JSON", "Math", "Reflect", "WebAssembly", "console", "document", "window",
    "navigator", "process", "global", "module", "exports"]

/-- Functions that are always at hand. -/
def library : List String :=
  ["eval", "isFinite", "isNaN", "parseFloat", "parseInt", "decodeURI", "decodeURIComponent",
    "encodeURI", "encodeURIComponent", "escape", "unescape", "require"]

/-- A character of a name. -/
def inName (c : Char) : Bool := inWord c || c = '$'

/-- A name. -/
def name : Probe :=
  chain [after fun c => !inName c, one fun c => inName c && !c.isDigit, many inName]

/-- That an opening parenthesis follows. -/
def called : Probe := ahead (seq blanks (lit "("))

/-- That a function follows as a value. -/
def isFunction : Probe :=
  ahead (seq blanks (or (word ["function", "async"])
    (or (seq name (seq blanks (lit "=>")))
      (chain [lit "(", many (fun c => c ≠ '(' && c ≠ ')'), lit ")", blanks, lit "=>"]))))

/-- Comments, quoted text and numbers. -/
def lexemes : List (Rule Context) :=
  [lineComment ["//"], opens .comment (lit "/*") .comment,
    opens .plain (lit "\"") (.text "\""), opens .plain (lit "'") (.text "'"),
    opens .plain (lit "\x60") .template,
    parts [(.constant, number), (.variable, maybe (seq (one fun c => inName c) (many inName)))]]

/-- The name of a member in quotes, where a function follows as its value. -/
def quotedFunctions : List (Rule Context) :=
  ["\"", "'"].map fun quote =>
    ⟨[⟨lit quote, some .plain⟩, ⟨many fun c => !(quote.toList.contains c) && c ≠ '\\' && c ≠ '\n',
        some .function⟩, ⟨lit quote, some .plain⟩,
      ⟨ahead (chain [blanks, lit ":", isFunction]), none⟩], .stay⟩

/-- Names, from the most special to the least. -/
def names : List (Rule Context) :=
  [token .plain (lit "..."), ⟨[⟨word objects, none⟩, ⟨seq blanks (lit "."), none⟩, ⟨blanks, none⟩,
      ⟨seq name called, some .library⟩], .stay⟩,
    ⟨[⟨word ["new"], none⟩, ⟨blanks, none⟩, ⟨word classes, some .className⟩], .stay⟩,
    ⟨[⟨word ["new"], none⟩, ⟨blanks, none⟩, ⟨seq name (notAhead (lit ".")), some .variable⟩],
      .stay⟩,
    ⟨[⟨lit ".", none⟩, ⟨seq name called, some .function⟩], .stay⟩,
    ⟨[⟨lit ".", none⟩, ⟨seq name (ahead (chain [blanks, lit "=", isFunction])), some .function⟩],
      .stay⟩,
    ⟨[⟨lit ".", none⟩, ⟨name, none⟩], .stay⟩,
    token .keyword (word keywords), token .constant (word constants),
    token .plain (word wordOperators),
    token .variable (word ["this", "super", "arguments"]),
    token .className (word classes), mark (word objects), token .library (word library),
    token .plain (seq name (ahead (seq blanks (lit "=>")))),
    token .function (seq name (ahead (chain [blanks, oneOf ["=", ":"], isFunction]))),
    ⟨[⟨name, none⟩, ⟨lit ":", none⟩], .stay⟩,
    ⟨[⟨name, some .function⟩, ⟨called, none⟩], .stay⟩,
    token .variable name]

/-- Signs. After some of them a slash starts a regular expression. -/
def operators : List (Rule Context) :=
  [opens .plain (run "=+-*%<>!&|^~?".toList.contains) .operand, token .plain (lit "/"),
    ⟨[⟨one "(,[\x7b;:".toList.contains, none⟩], .push [.operand]⟩, sign]

/-- Expressions and statements. -/
def expression : List (Rule Context) :=
  quotedFunctions ++ lexemes ++
  [parts [(.keyword, word ["yield"]), (.keyword, seq blanks (lit "*"))],
    ⟨[⟨word ["function"], some .keyword⟩, ⟨maybe (seq blanks (lit "*")), some .keyword⟩],
      .push [.definition]⟩,
    opens .keyword (word ["class"]) .classHead,
    token .keyword (lit "=>"),
    ⟨[⟨lit "(", none⟩, ⟨ahead (chain [many (fun c => c ≠ '(' && c ≠ ')'), lit ")", blanks,
      lit "=>"]), none⟩], .push [.arrowParameters]⟩,
    opens .keyword (word ["return", "case", "yield"]) .operand,
    opens .plain (word ["typeof"]) .operand] ++
  names ++ operators

/-- The rules of a context that ends at a brace. -/
def braced (close : Rule Context) : List (Rule Context) :=
  [close, ⟨[⟨lit "\x7b", none⟩], .push [.block]⟩]

/-- The rules of each context. -/
def rules : Context → List (Rule Context)
  | .code => expression
  | .block => braced ⟨[⟨lit "\x7d", none⟩], .pop⟩ ++ expression
  | .comment => [closes .comment (lit "*/")]
  | .definition =>
    [token .function name, ⟨[⟨lit "(", none⟩], .swap [.parameters]⟩, leave (lit "\x7b")]
  | .parameters | .arrowParameters =>
    [⟨[⟨lit ")", none⟩], .pop⟩] ++ lexemes ++
      [⟨[⟨lit "=", none⟩], .push [.defaultValue]⟩, token .plain name, sign]
  | .defaultValue => leave (oneOf [",", ")"]) :: ⟨[⟨lit "(", none⟩], .push [.group]⟩ :: expression
  | .group => ⟨[⟨lit ")", none⟩], .pop⟩ :: expression
  | .classHead =>
    [⟨[⟨word ["extends"], some .keyword⟩], .push [.heritage]⟩, token .className name,
      ⟨[⟨lit "\x7b", none⟩], .swap [.classBody]⟩]
  | .heritage => [token .string name, leave (lit "\x7b")] ++ expression
  | .classBody =>
    braced ⟨[⟨lit "\x7d", none⟩], .pop⟩ ++
      [⟨[⟨word ["static", "get", "set", "async"], some .keyword⟩,
          ⟨ahead (seq (run (· = ' ')) name), none⟩], .stay⟩,
        ⟨[⟨seq name called, some .function⟩, ⟨seq blanks (lit "("), none⟩], .push [.parameters]⟩] ++
      expression
  | .text quote =>
    [closes .plain (lit quote), token .escape anyEscape, closes .illegal (lit "\n")]
  | .template =>
    [closes .plain (lit "\x60"), token .escape anyEscape, opens .plain (lit "$\x7b") .place]
  | .place => braced (closes .plain (lit "\x7d")) ++ expression
  | .operand =>
    [(token .plain (chain [lit "/", notAhead (oneOf ["/", "*"])])).thenTurn (.swap [.regex]),
      mark (run fun c => c = ' ' || c = '\t'), leave (one fun _ => true), leave lineEnd]
  | .regex =>
    [(parts [(.plain, lit "/"), (.keyword, many Char.isAlpha)]).thenTurn .pop,
      token .escape anyEscape, opens .escape (lit "[") .regexSet, leave lineEnd]
  | .regexSet => [closes .escape (lit "]"), token .escape anyEscape, leave lineEnd]

/-- The role of text that no rule gives one. -/
def ground : Context → Option Role
  | .comment => some .comment
  | .text _ | .template => some .string
  | .place => some .plain
  | .regex | .regexSet => some .escape
  | .classHead | .heritage | .classBody => some .classBody
  | _ => none

/-- The grammar. -/
def grammar : Grammar := ⟨Context, .code, ground, rules⟩

end Folio.Highlight.JavaScript
