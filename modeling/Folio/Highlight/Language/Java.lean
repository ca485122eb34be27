import Folio.Highlight.Lexeme

/-!
# Java

Type declarations with their bodies, methods, statements and expressions. Everything inside a type's
body has the ground of that body. A line of a body starts an enumeration's constants if its first
word is in capitals and a parenthesis, brace or comma follows; else a word starts a method if an
opening parenthesis comes later in the line, before an equals sign or a comment.
-/

namespace Folio.Highlight.Java

open Probe Rule

/-- The contexts of the grammar. -/
inductive Context where
  | code
  | comment
  | head
  | typeParameters
  | typeBound
  | typeArguments
  | inherited
  | body
  | constants
  | constantRest
  | method
  | thrown
  | block
  | group
  | parameters
  | path
  | staticPath
  | packagePath
  | text
  | character

/-- Types that are no classes. -/
def primitives : List String :=
  ["void", "boolean", "byte", "char", "short", "int", "float", "long", "double"]

/-- Words that modify a declaration. -/
def modifiers : List String :=
  ["abstract", "final", "native", "private", "protected", "public", "static", "strictfp",
    "synchronized", "transient", "volatile", "default"]

/-- Words of statements. -/
def keywords : List String :=
  ["assert", "break", "case", "catch", "continue", "default", "do", "else", "finally", "for",
    "goto", "if", "new", "return", "switch", "throw", "try", "while"]

/-- A name that starts with a capital. -/
def className : Probe := wordOf Char.isUpper inWord

/-- A name in capitals, of more than one character. -/
def constantName : Probe := fun before rest => do
  let n ← className before rest
  if n > 1 && (rest.take n).all (fun c => c.isUpper || c.isDigit || c = '_') then n else none

/-- That an opening parenthesis follows. -/
def called : Probe := ahead (seq blanks (lit "("))

/-- A type that is no class, or an array of such. -/
def primitive : Probe := seq (word primitives) (many fun c => c = '[' || c = ']')

/-- A name with names that dots join to it. -/
def dotted : Probe := fun before rest => do
  let n ← identifier before rest
  return n + joined rest.length (rest.drop n)
where
  /-- The characters of the names that dots join. -/
  joined : Nat → List Char → Nat
    | 0, _ => 0
    | fuel + 1, rest =>
      match (seq (lit ".") identifier) none rest with
      | some n => n + joined fuel (rest.drop n)
      | none => 0

/-- That the constants of an enumeration start in this line. -/
def constantsAhead : Probe :=
  chain [lineStart, ahead (chain [many Text.isBlank,
    run fun c => c.isUpper || c.isDigit || c = '_', many Text.isBlank, oneOf ["\x7b", "(", ","]])]

/-- That the head of a type comes before anything but words. -/
def headAhead : Probe := fun _ rest =>
  let line := rest.takeWhile fun c => inWord c || Text.isBlank c || c = '@'
  let words := (String.ofList line).splitOn " "
  if words.dropLast.any fun w => ["class", "interface", "@interface", "enum"].contains w then some 0
  else none

/-- That a method starts here. -/
def methodAhead : Probe :=
  chain [ahead (one fun c => inWord c || c = '<'), notAhead (lit "new"), notAhead headAhead,
    fun _ rest => if reaches (rest.drop 1) then some 0 else none]
where
  /-- Whether an opening parenthesis comes before an equals sign and a comment. -/
  reaches : List Char → Bool
    | '(' :: _ => true
    | '=' :: _ | '/' :: '/' :: _ => false
    | _ :: rest => reaches rest
    | [] => false

/-- Comments, quoted text and numbers. -/
def lexemes : List (Rule Context) :=
  [lineComment ["//"], opens .comment (lit "/*") .comment, opens .plain (lit "\"") .text,
    opens .plain (lit "'") .character,
    ⟨[⟨number, some .constant⟩, ⟨maybe (one "lLfFdD".toList.contains), some .keyword⟩], .stay⟩]

/-- Annotations and the heads of types. -/
def heads : List (Rule Context) :=
  [opens .keyword (word ["class", "interface", "enum"]) .head,
    ⟨[⟨lit "@", some .plain⟩, ⟨word ["interface"], some .keyword⟩], .push [.head]⟩,
    ⟨[⟨lit "@", some .plain⟩, ⟨dotted, some .variable⟩], .stay⟩]

/-- Types. -/
def types : List (Rule Context) :=
  [token .keyword primitive,
    ⟨[⟨seq className (notAhead called), some .className⟩, ⟨lit "<", none⟩], .push [.typeArguments]⟩,
    token .className (seq className (notAhead called))]

/-- Expressions and statements. -/
def expression : List (Rule Context) :=
  lexemes ++ heads ++
  [⟨[⟨word ["new"], some .keyword⟩, ⟨blanks, none⟩, ⟨className, some .className⟩], .stay⟩,
    token .variable (word ["this", "super"]), token .constant (word ["true", "false", "null"]),
    token .plain (word ["instanceof"]), token .keyword (word keywords),
    token .constant constantName] ++
  types ++
  [⟨[⟨identifier, some .function⟩, ⟨called, none⟩], .stay⟩,
    ⟨[⟨lit "(", none⟩], .push [.group]⟩, ⟨[⟨lit "\x7b", none⟩], .push [.block]⟩,
    token .plain (run "=!<>&|+-*/%".toList.contains), sign]

/-- The rules of each context. -/
def rules : Context → List (Rule Context)
  | .code =>
    [(parts [(.keyword, word ["import"]), (.plain, blanks), (.keyword, word ["static"])]).thenTurn
        (.push [.staticPath]),
      opens .keyword (word ["import"]) .path, opens .keyword (word ["package"]) .packagePath,
      token .keyword (word modifiers)] ++ expression
  | .comment => [closes .comment (lit "*/")]
  | .head =>
    lexemes ++ [opens .keyword (word ["extends", "implements"]) .inherited,
      token .className identifier, ⟨[⟨lit "<", none⟩], .push [.typeParameters]⟩,
      ⟨[⟨lit "\x7b", none⟩], .swap [.body]⟩, sign]
  | .typeParameters =>
    lexemes ++ [⟨[⟨lit ">", none⟩], .pop⟩, opens .keyword (word ["extends", "super"]) .typeBound,
      token .variable identifier, sign]
  | .typeBound =>
    [leave (oneOf [",", ">"]), ⟨[⟨lit "<", none⟩], .push [.typeArguments]⟩,
      token .className className, sign]
  | .typeArguments =>
    lexemes ++ [⟨[⟨lit ">", none⟩], .pop⟩, ⟨[⟨lit "<", none⟩], .push [.typeArguments]⟩,
      token .keyword (word ["extends", "super"]), token .keyword primitive,
      token .className className, leave (oneOf [";", "\x7b", "(", ")"]), sign]
  | .inherited =>
    [leave (or (lit "\x7b") (word ["extends", "implements"])), token .string identifier,
      ⟨[⟨lit "<", none⟩], .push [.typeArguments]⟩, sign]
  | .body =>
    [⟨[⟨lit "\x7d", none⟩], .pop⟩, ⟨[⟨constantsAhead, none⟩], .push [.constants]⟩,
      ⟨[⟨methodAhead, none⟩], .push [.method]⟩, token .keyword (word modifiers)] ++ expression
  | .constants =>
    [leave (oneOf [";", "\x7d"]), opens .constant (run inWord) .constantRest] ++ lexemes ++ [sign]
  | .constantRest =>
    [leave (oneOf [",", ";", "\x7d"]), ⟨[⟨lit "(", none⟩], .push [.group]⟩,
      ⟨[⟨lit "\x7b", none⟩], .push [.body]⟩] ++ lexemes
  | .method =>
    [⟨[⟨lit "\x7d", none⟩], .pop⟩, leave (lit ";"), token .keyword (word modifiers),
      ⟨[⟨seq identifier called, some .function⟩, ⟨seq blanks (lit "("), none⟩],
        .push [.parameters]⟩,
      opens .keyword (word ["throws"]) .thrown, ⟨[⟨lit "<", none⟩], .push [.typeParameters]⟩,
      ⟨[⟨lit "\x7b", none⟩], .swap [.block]⟩] ++ lexemes ++ types ++ [sign]
  | .thrown => [leave (oneOf ["\x7b", ";"]), token .className className] ++ lexemes ++ [sign]
  | .block => ⟨[⟨lit "\x7d", none⟩], .pop⟩ :: expression
  | .group => ⟨[⟨lit ")", none⟩], .pop⟩ :: expression
  | .parameters =>
    [⟨[⟨lit ")", none⟩], .pop⟩, ⟨[⟨lit "@", some .plain⟩, ⟨dotted, some .variable⟩], .stay⟩,
      token .keyword (word ["final"])] ++ lexemes ++ types ++ [token .variable identifier, sign]
  | .path => [leave (lit ";"), leave lineEnd, token .className dotted, sign]
  | .staticPath => [leave (lit ";"), leave lineEnd, token .library dotted, sign]
  | .packagePath => [leave (lit ";"), leave lineEnd, token .plain dotted]
  | .text =>
    [closes .plain (lit "\""), token .escape (escapeOf "btnfr\"'\\".toList),
      closes .illegal (lit "\n")]
  | .character =>
    [closes .plain (lit "'"), token .escape (escapeOf "btnfr\"'\\".toList),
      closes .illegal (lit "\n")]

/-- The role of text that no rule gives one. -/
def ground : Context → Option Role
  | .comment => some .comment
  | .text | .character => some .string
  | .head | .inherited | .body => some .classBody
  | _ => none

/-- The grammar. -/
def grammar : Grammar := ⟨Context, .code, ground, rules⟩

end Folio.Highlight.Java
