import Folio.Highlight.Lexeme

/-!
# Haskell

Modules, signatures and expressions. A name before a double colon is the one that is declared, and
the rest of its line is a type.
-/

namespace Folio.Highlight.Haskell

open Probe Rule

/-- The contexts of the grammar. -/
inductive Context where
  | code
  | comment
  | signature
  | text

/-- Words that are keywords in every place. -/
def keywords : List String :=
  ["module", "import", "qualified", "hiding", "as", "where", "class", "instance", "data",
    "newtype", "type", "deriving", "let", "in", "if", "then", "else", "case", "of", "do",
    "default", "infix", "infixl", "infixr"]

/-- Functions of the prelude. -/
def prelude : List String :=
  ["abs", "all", "and", "any", "break", "concat", "concatMap", "const", "cos", "curry", "cycle",
    "div", "divMod", "drop", "dropWhile", "elem", "error", "even", "exp", "filter", "flip",
    "floor", "fmap", "foldl", "foldl1", "foldr", "foldr1", "fromIntegral", "fst", "gcd",
    "getContents", "getLine", "head", "id", "init", "interact", "iterate", "last", "lcm", "length",
    "lines", "lookup", "map", "mapM", "mapM_", "max", "maximum", "maybe", "min", "minimum", "mod",
    "negate", "not", "null", "odd", "or", "otherwise", "pi", "pred", "print", "product", "putChar",
    "putStr", "putStrLn", "quot", "read", "readFile", "rem", "repeat", "replicate", "return",
    "reverse", "round", "scanl", "seq", "sequence", "show", "sin", "snd", "span", "splitAt",
    "sqrt", "subtract", "succ", "sum", "tail", "take", "takeWhile", "toInteger", "truncate",
    "uncurry", "unlines", "until", "unwords", "unzip", "words", "writeFile", "zip", "zipWith"]

/-- A name, which may have primes. -/
def name : Probe :=
  seq (wordOf (fun c => c = '_' || (inWord c && !c.isDigit)) inWord) (many (· = '\''))

/-- Comments, quoted text and numbers. -/
def lexemes : List (Rule Context) :=
  [opens .comment (lit "\x7b-") .comment, lineComment ["--"], opens .plain (lit "\"") .text,
    parts [(.plain, lit "'"), (.string, one fun c => c ≠ '\'' && c ≠ '\\' && c ≠ '\n'),
      (.plain, lit "'")],
    token .constant number]

/-- The rules of each context. -/
def rules : Context → List (Rule Context)
  | .code =>
    lexemes ++
    [(parts [(.function, chain [lineStart, blanks, name]), (.plain, blanks),
        (.keyword, lit "::")]).thenTurn (.push [.signature]),
      token .keyword (word keywords), token .library (seq (word prelude) (notAhead (lit "'"))),
      token .constant (word ["True", "False", "Nothing", "Just", "Left", "Right", "LT", "EQ",
        "GT"]),
      sign]
  | .comment => [closes .comment (lit "-\x7d"), opens .comment (lit "\x7b-") .comment]
  | .signature =>
    [leave lineEnd] ++ lexemes ++ [token .keyword (oneOf ["->", "=>"]), mark name, sign]
  | .text => [closes .plain (lit "\""), token .escape anyEscape, leave lineEnd]

/-- The role of text that no rule gives one. -/
def ground : Context → Option Role
  | .comment => some .comment
  | .text => some .string
  | _ => none

/-- The grammar. -/
def grammar : Grammar := ⟨Context, .code, ground, rules⟩

end Folio.Highlight.Haskell
