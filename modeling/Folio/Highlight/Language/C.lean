import Folio.Highlight.Lexeme

/-!
# C and its kin

Declarations, statements and preprocessor lines. The dialect with classes adds words, namespaces
and class bodies to the plain one.
-/

namespace Folio.Highlight.C

open Probe Rule

/-- The contexts of the grammar. -/
inductive Context where
  | code
  | comment
  | define
  | macroParameters
  | include
  | includePath (closing : String)
  | directive
  | parameters
  | classHead
  | classBases
  | classBody
  | text
  | character

/-- Words of control flow. -/
def control : List String :=
  ["break", "case", "continue", "default", "do", "else", "for", "goto", "if", "return", "switch",
    "while"]

/-- Types, and words that modify them. -/
def declarators : List String :=
  ["asm", "auto", "bool", "char", "double", "float", "int", "long", "short", "signed", "unsigned",
    "void", "struct", "union", "enum", "typedef", "const", "extern", "register", "restrict",
    "static", "volatile", "inline"]

/-- Words that only the dialect with classes has. -/
def classWords : List String :=
  ["using", "namespace", "template", "typename", "public", "private", "protected", "virtual",
    "friend", "explicit", "mutable", "constexpr", "noexcept", "override", "final", "try", "catch",
    "throw", "decltype", "static_assert", "export", "wchar_t", "char16_t", "char32_t"]

/-- Types of the standard library. -/
def types : List String :=
  ["size_t", "ssize_t", "ptrdiff_t", "int8_t", "int16_t", "int32_t", "int64_t", "uint8_t",
    "uint16_t", "uint32_t", "uint64_t", "intptr_t", "uintptr_t", "intmax_t", "uintmax_t"]

/-- Functions of the standard library. -/
def library : List String :=
  ["abort", "abs", "atexit", "atof", "atoi", "atol", "bsearch", "calloc", "ceil", "cos", "exit",
    "exp", "fabs", "fclose", "feof", "ferror", "fflush", "fgetc", "fgets", "floor", "fmod",
    "fopen", "fprintf", "fputc", "fputs", "fread", "free", "fscanf", "fseek", "ftell", "fwrite",
    "getc", "getchar", "getenv", "gets", "isalnum", "isalpha", "isdigit", "islower", "isspace",
    "isupper", "log", "malloc", "memchr", "memcmp", "memcpy", "memmove", "memset", "perror", "pow",
    "printf", "putc", "putchar", "puts", "qsort", "rand", "realloc", "remove", "rename", "scanf",
    "setjmp", "signal", "sin", "snprintf", "sprintf", "sqrt", "srand", "sscanf", "strcat",
    "strchr", "strcmp", "strcpy", "strlen", "strncat", "strncmp", "strncpy", "strrchr", "strstr",
    "strtod", "strtok", "strtol", "strtoul", "system", "tan", "time", "tolower", "toupper",
    "vfprintf", "vprintf", "vsnprintf", "vsprintf"]

/-- A place for a value in a format. -/
def placeholder : Probe :=
  let size : Probe := many fun c => c.isDigit || c = '*'
  chain [lit "%", many (fun c => "-+ #0".toList.contains c), size, maybe (seq (lit ".") size),
    many "hljtzqL".toList.contains,
    one "diouxXeEfFgGaAcsCSpn%".toList.contains]

/-- That an opening parenthesis follows. -/
def called : Probe := ahead (seq blanks (lit "("))

/-- Comments, quoted text and numbers. -/
def lexemes : List (Rule Context) :=
  [lineComment ["//"], opens .comment (lit "/*") .comment,
    (parts [(.keyword, seq (after fun c => !inWord c) (oneOf ["u8", "L", "U", "u"])),
      (.plain, lit "\"")]).thenTurn (.push [.text]),
    opens .plain (lit "\"") .text, opens .plain (lit "'") .character,
    parts [(.constant, number), (.keyword, maybe (run "uUlLfF".toList.contains))]]

/-- Preprocessor lines. -/
def directives : List (Rule Context) :=
  let directive (words : List String) : Piece :=
    ⟨chain [lit "#", blanks, word words], some .keyword⟩
  let start : Piece := ⟨seq lineStart blanks, some .plain⟩
  [⟨[start, directive ["include", "import"]], .push [.include]⟩,
    ⟨[start, directive ["define"]], .push [.directive, .define]⟩,
    ⟨[start, directive ["if", "ifdef", "ifndef", "elif", "else", "endif", "undef", "pragma",
      "line", "error", "warning"]], .push [.directive]⟩]

/-- Expressions and declarations in a dialect. -/
def expression (classes : Bool) : List (Rule Context) :=
  lexemes ++
  [parts [(.keyword, word ["struct", "union", "enum"]), (.plain, blanks), (.plain, identifier)],
    token .constant (word ["NULL", "true", "false", "TRUE", "FALSE"]), mark (word ["sizeof"]),
    mark (word types), token .keyword (word control), token .keyword (word declarators)] ++
  (if classes then
    [token .constant (word ["nullptr"]), token .variable (word ["this"]),
      mark (word ["new", "delete", "operator", "and", "or", "not"]),
      opens .keyword (word ["class"]) .classHead, token .keyword (word classWords),
      mark (seq identifier (lit "::"))]
  else []) ++
  [parts [(.plain, oneOf ["->", "."]), (.function, identifier), (.plain, called)],
    parts [(.plain, oneOf ["->", "."]), (.variable, identifier)],
    parts [(.library, seq (word library) called)],
    parts [(.function, identifier), (.plain, called)],
    token .plain (run "=+-*%!&|^~?".toList.contains), sign]

/-- A function's name behind a type, with its parameters to come. -/
def definition : Rule Context :=
  ⟨[⟨word ["int", "void", "char", "double", "float", "long", "short", "bool", "auto", "unsigned",
      "signed"], some .keyword⟩,
    ⟨blanks, none⟩, ⟨many (· = '*'), none⟩, ⟨blanks, none⟩,
    ⟨seq identifier called, some .function⟩, ⟨seq blanks (lit "("), none⟩],
    .push [.parameters]⟩

/-- The rules of each context in a dialect. -/
def rules (classes : Bool) : Context → List (Rule Context)
  | .code => directives ++ definition :: expression classes
  | .comment => [closes .comment (lit "*/")]
  | .include =>
    [(token .plain (lit "<")).thenTurn (.swap [.includePath ">"]),
      (token .plain (lit "\"")).thenTurn (.swap [.includePath "\""]), leave lineEnd]
  | .includePath closing => [closes .plain (lit closing), leave lineEnd]
  | .define =>
    [⟨[⟨identifier, some .function⟩, ⟨lit "(", some .plain⟩], .swap [.macroParameters]⟩,
      closes .plain identifier, leave lineEnd]
  | .macroParameters =>
    [closes .plain (lit ")"), token .variable identifier, mark (oneOf [",", "..."]), leave lineEnd]
  | .directive =>
    [token .plain (lit "\\\n"), leave lineEnd] ++ expression classes
  | .parameters =>
    [closes .plain (lit ")"), token .keyword (word declarators), mark (word types),
      parts [(.variable, identifier), (.plain, ahead (seq blanks (oneOf [",", ")", "["])))]] ++
      expression classes
  | .classHead =>
    [token .keyword (word classWords), token .className identifier, leave (lit ";"),
      (token .classBody (lit "\x7b")).thenTurn (.swap [.classBody]),
      (token .classBody (lit ":")).thenTurn (.swap [.classBases])]
  | .classBases =>
    [token .keyword (word classWords), mark (seq identifier (lit "::")), token .string identifier,
      (token .classBody (lit "\x7b")).thenTurn (.swap [.classBody]), sign]
  | .classBody =>
    [closes .classBody (lit "\x7d"), opens .classBody (lit "\x7b") .classBody] ++ directives ++
      expression classes
  | .text =>
    [closes .plain (lit "\""), token .escape anyEscape, token .constant placeholder,
      closes .illegal (lit "\n")]
  | .character => [closes .plain (lit "'"), token .escape anyEscape, closes .illegal (lit "\n")]

/-- The role of text that no rule gives one. -/
def ground : Context → Option Role
  | .comment => some .comment
  | .text | .character | .includePath _ => some .string
  | .classHead | .classBases | .classBody => some .classBody
  | _ => none

/-- The grammar of the plain dialect. -/
def grammar : Grammar := ⟨Context, .code, ground, rules false⟩

/-- The grammar of the dialect with classes. -/
def classGrammar : Grammar := ⟨Context, .code, ground, rules true⟩

end Folio.Highlight.C
