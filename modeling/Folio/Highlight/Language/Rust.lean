import Folio.Highlight.Lexeme

/-!
# Rust

Items, statements and expressions in one context, with parameters, fields, attributes and the
arguments of formatting macros in their own. Block comments nest, and raw text ends at a quote with
as many number signs as it started with.
-/

namespace Folio.Highlight.Rust

open Probe Rule

/-- The contexts of the grammar. -/
inductive Context where
  | code
  | comment
  | definition
  | signature
  | parameters (closing : String)
  | parameterType (closing : String)
  | group (closing : String)
  | tuple
  | typeName
  | fields
  | attribute
  | attributeArguments
  | formatting
  | text
  | formattedText
  | rawText (signs : Nat)
  | macroName
  | macroArms
  | macroPattern
  | macroResult
  | macroBody

/-- Words that types are made of. -/
def typeWords : List String :=
  ["bool", "char", "f32", "f64", "i8", "i16", "i32", "i64", "i128", "isize", "str", "u8", "u16",
    "u32", "u64", "u128", "usize", "Self", "mut", "ref", "const", "unsafe", "dyn", "impl", "fn"]

/-- Words that are keywords in every place. -/
def keywords : List String :=
  ["if", "else", "match", "for", "while", "loop", "return", "break", "continue", "await", "yield",
    "let", "static", "pub", "move", "async", "use", "extern", "crate", "where", "mod", "type",
    "macro"] ++ typeWords

/-- What a part of a macro's pattern may stand for. -/
def fragments : List String :=
  ["ident", "path", "expr", "ty", "pat", "stmt", "block", "item", "meta", "tt", "lifetime", "vis",
    "literal"]

/-- Types of the standard library. -/
def types : List String :=
  ["Copy", "Send", "Sized", "Sync", "Drop", "Fn", "FnMut", "FnOnce", "Box", "ToOwned", "Clone",
    "PartialEq", "PartialOrd", "Eq", "Ord", "AsRef", "AsMut", "Into", "From", "Default",
    "Iterator", "Extend", "IntoIterator", "DoubleEndedIterator", "ExactSizeIterator", "Option",
    "Some", "None", "Result", "Ok", "Err", "String", "ToString", "Vec"]

/-- Macros whose text has places for values. -/
def formattingMacros : List String :=
  ["format", "print", "println", "eprint", "eprintln", "write", "writeln", "panic", "format_args",
    "unreachable", "unimplemented"]

/-- A word that ends before an exclamation mark. -/
def macroName (words : Probe) : Probe := chain [words, lit "!", notAhead (lit "=")]

/-- A name in capitals, of more than one character. -/
def constantName : Probe := fun before rest => do
  let n ← identifier before rest
  let name := rest.take n
  if n > 1 && name.any Char.isUpper &&
      name.all (fun c => c.isUpper || c.isDigit || c = '_') then n
  else none

/-- The suffix that tells the type of a number. -/
def suffix : Probe :=
  oneOf ["i8", "i16", "i32", "i64", "i128", "isize", "u8", "u16", "u32", "u64", "u128", "usize",
    "f32", "f64"]

/-- An escape in text. -/
def escape : Probe :=
  chain [lit "\\", or (oneOf ["n", "r", "t", "0", "\"", "'", "\\", "\n"])
    (or (seq (lit "x") (exactly isHex 2))
      (chain [lit "u\x7b", run isHex, lit "\x7d"]))]

/-- The number signs around raw text. -/
def rawSigns (signs : Nat) : String := String.ofList (List.replicate signs '#')

/-- Comments and quoted text. -/
def quoted : List (Rule Context) :=
  [lineComment ["//"], opens .comment (lit "/*") .comment,
    (parts [(.keyword, seq (after fun c => !inWord c) (lit "b")), (.plain, lit "\"")]).thenTurn
      (.push [.text]),
    parts [(.keyword, seq (after fun c => !inWord c) (lit "b")), (.plain, lit "'"),
      (.escape, escape), (.plain, lit "'")],
    parts [(.keyword, seq (after fun c => !inWord c) (lit "b")), (.plain, lit "'"),
      (.string, one fun c => c ≠ '\'' && c ≠ '\n'), (.plain, lit "'")]] ++
  ([0, 1, 2, 3].map fun signs =>
    (parts [(.keyword, seq (after fun c => !inWord c) (oneOf ["r", "br"])),
      (.plain, lit (rawSigns signs)), (.string, lit "\"")]).thenTurn (.push [.rawText signs])) ++
  [opens .plain (lit "\"") .text,
    parts [(.plain, lit "'"), (.escape, escape), (.plain, lit "'")],
    parts [(.plain, lit "'"), (.string, one fun c => c ≠ '\'' && c ≠ '\n'), (.plain, lit "'")],
    token .keyword (seq (lit "'") identifier)]

/-- Expressions and types. -/
def expression : List (Rule Context) :=
  quoted ++
  [opens .plain (seq (lit "#") (seq (maybe (lit "!")) (lit "["))) .attribute,
    (parts [(.plain, macroName (word formattingMacros)),
      (.plain, oneOf ["(", "[", "\x7b"])]).thenTurn (.push [.formatting]),
    mark (macroName identifier), token .variable (seq (lit "$") identifier),
    parts [(.constant, number), (.keyword, suffix)],
    parts [(.constant, seq digits (lit ".")), (.plain, notAhead (or (lit ".") identifier))],
    token .constant number,
    token .variable (word ["self"]), token .constant (word ["true", "false"]),
    token .keyword (word keywords), mark (word ["as", "in"]), mark (word types),
    mark (seq identifier (lit "::")),
    parts [(.plain, seq (after (· = ':')) identifier), (.plain, ahead (lit "("))],
    parts [(.library, identifier), (.plain, ahead (lit "("))],
    token .constant constantName, sign]

/-- The sign in front of a closure's parameters. As an operator it has a blank after it. -/
def closure : Probe :=
  chain [after fun c => !inWord c && c ≠ ')' && c ≠ ']' && c ≠ '|', lit "|",
    notAhead (one fun c => c = '|' || c = '=' || Text.isBlank c)]

/-- Groups in parentheses, in brackets and between a third pair of marks, given by the one that
opens. -/
def groups (third : String) : List (Rule Context) :=
  [opens .plain (lit "(") (.group ")"), opens .plain (lit "[") (.group "]"),
    opens .plain (lit third) (.group (if third = "<" then ">" else "\x7d"))]

/-- Items and statements. -/
def statement : List (Rule Context) :=
  [opens .keyword (word ["fn"]) .definition,
    opens .keyword (word ["struct", "enum", "union", "trait"]) .typeName,
    opens .library (seq (word ["macro_rules"]) (lit "!")) .macroName,
    parts [(.keyword, word ["impl"]), (.plain, seq blanks (lit "<"))],
    opens .plain closure (.parameters "|")] ++ expression

/-- The rules of each context. -/
def rules : Context → List (Rule Context)
  | .code => statement
  | .comment => [closes .comment (lit "*/"), opens .comment (lit "/*") .comment]
  | .definition =>
    [(token .function identifier).thenTurn (.swap [.signature]),
      leave (oneOf ["(", "\x7b", ";"])] ++ quoted
  | .signature =>
    [(token .plain (lit "(")).thenTurn (.swap [.parameters ")"]),
      opens .plain (lit "<") (.group ">"), leave (oneOf ["\x7b", ";"])] ++ quoted
  | .parameters closing =>
    [closes .plain (lit closing), opens .plain (lit ":") (.parameterType closing)] ++ quoted ++
      [token .keyword (word ["mut", "ref"]), token .variable identifier, mark (oneOf ["&", ","])]
  | .parameterType closing =>
    leave (oneOf [",", closing]) :: groups "<" ++ expression
  | .group closing =>
    mark (oneOf ["->", "=>"]) :: closes .plain (lit closing) ::
      groups (if closing = ">" then "<" else "\x7b") ++ expression
  | .tuple =>
    mark (lit "->") :: closes .plain (oneOf [")", "]", ">"]) ::
      opens .plain (oneOf ["(", "[", "<"]) .tuple ::
      quoted ++ [token .keyword (word typeWords), token .constant number, mark identifier]
  | .typeName =>
    [(parts [(.plain, lit "(")]).thenTurn (.swap [.tuple]), mark identifier,
      opens .plain (lit "<") (.group ">"), (token .plain (lit "\x7b")).thenTurn (.swap [.fields]),
      leave (lit ";")] ++ expression
  | .fields =>
    [closes .plain (lit "\x7d"), parts [(.variable, identifier), (.plain, seq blanks (lit ":"))],
      opens .plain (lit "\x7b") .fields] ++ groups "<" ++ statement
  | .attribute =>
    [closes .plain (lit "]"), token .variable identifier,
      opens .plain (lit "(") .attributeArguments] ++ quoted
  | .attributeArguments =>
    closes .plain (lit ")") :: opens .plain (lit "(") .attributeArguments :: quoted
  | .formatting =>
    [closes .plain (oneOf [")", "]", "\x7d"]), opens .plain (lit "\"") .formattedText] ++
      groups "\x7b" ++ expression
  | .text => [closes .plain (lit "\""), token .escape escape]
  | .formattedText =>
    [closes .plain (lit "\""), token .escape escape,
      token .escape (oneOf ["\x7b\x7b", "\x7d\x7d"]),
      token .constant (chain [lit "\x7b",
        many (fun c => c ≠ '\x7b' && c ≠ '\x7d' && c ≠ '"'), lit "\x7d"])]
  | .rawText signs => [closes .plain (lit ("\"" ++ rawSigns signs))]
  | .macroName =>
    [mark identifier, (token .plain (oneOf ["\x7b", "(", "["])).thenTurn (.swap [.macroArms])] ++
      quoted
  | .macroArms =>
    [closes .plain (oneOf ["\x7d", ")", "]"]), opens .plain (lit "=>") .macroResult,
      opens .plain (oneOf ["\x7b", "(", "["]) .macroPattern] ++ quoted
  | .macroPattern =>
    [closes .plain (oneOf ["\x7d", ")", "]"]),
      opens .plain (oneOf ["\x7b", "(", "["]) .macroPattern,
      parts [(.variable, seq (lit "$") identifier), (.plain, chain [blanks, lit ":", blanks]),
        (.keyword, word fragments)],
      token .variable (seq (lit "$") identifier)] ++ quoted
  | .macroResult =>
    (token .plain (oneOf ["\x7b", "(", "["])).thenTurn (.swap [.macroBody]) :: quoted
  | .macroBody =>
    [closes .plain (oneOf ["\x7d", ")", "]"]),
      opens .plain (oneOf ["\x7b", "(", "["]) .macroBody] ++ statement

/-- The role of text that no rule gives one. -/
def ground : Context → Option Role
  | .comment => some .comment
  | .text | .formattedText | .rawText _ => some .string
  | _ => none

/-- The grammar. -/
def grammar : Grammar := ⟨Context, .code, ground, rules⟩

end Folio.Highlight.Rust
