import Folio.Highlight.Lexeme

/-!
# Shell

Commands and their arguments, assignments, quoted text and expansions. The first word of a command
is its name; what follows it up to the command's end are arguments.
-/

namespace Folio.Highlight.Shell

open Probe Rule

/-- The contexts of the grammar. -/
inductive Context where
  | command
  | arguments
  | assigned
  | declaration
  | loopHead
  | loopItems
  | caseHead
  | cases
  | caseCommands
  | test
  | nested
  | backticks
  | arithmetic
  | expansion
  | expansionRest
  | expansionPattern
  | expansionValue
  | document (closing : String) (expands : Bool)
  | double
  | single

/-- Words that steer commands. -/
def control : List String :=
  ["if", "then", "elif", "else", "fi", "while", "until", "do", "done", "esac", "time"]

/-- Words that leave what they stand in. -/
def exits : List String := ["return", "break", "continue"]

/-- Words before assignments. -/
def declarators : List String := ["export", "local", "declare", "readonly", "typeset"]

/-- Commands that the shell has built in. -/
def builtins : List String :=
  ["alias", "bg", "bind", "builtin", "caller", "cd", "command", "dirs", "disown", "echo", "enable",
    "eval", "exec", "exit", "false", "fc", "fg", "getopts", "hash", "help", "history", "jobs",
    "kill", "let", "logout", "mapfile", "popd", "printf", "pushd", "pwd", "read", "readarray",
    "set", "shift", "shopt", "source", "suspend", "test", "times", "trap", "true", "type",
    "ulimit", "umask", "unalias", "unset", "wait"]

/-- A character that a bare word may hold. -/
def inBareWord (c : Char) : Bool :=
  !Text.isBlank c && !"|&;<>()$\x60\"'\\#=\x7b\x7d".toList.contains c

/-- A word of a command that is among some given ones and ends with a blank or an operator. -/
def command (words : List String) : Probe := fun _ rest =>
  let w := rest.takeWhile inBareWord
  if words.contains (String.ofList w) then some w.length else none

/-- A comment that starts a word. -/
def comment : Rule Context :=
  token .comment (chain [after fun c => Text.isBlank c || c = ';' || c = '(',
    lit "#", restOfLine])

/-- Expansions of variables and of commands. -/
def expansions : List (Rule Context) :=
  [parts [(.plain, lit "$"),
      (.variable, or identifier (one fun c => c.isDigit || "@*#?-$!".toList.contains c))],
    ⟨[⟨lit "$", some .plain⟩, ⟨lit "((", none⟩], .push [.arithmetic]⟩,
    ⟨[⟨lit "$", some .plain⟩, ⟨lit "(", none⟩], .push [.nested]⟩,
    ⟨[⟨lit "$", some .plain⟩, ⟨lit "\x7b", none⟩], .push [.expansion]⟩,
    ⟨[⟨lit "\x60", some .plain⟩], .push [.backticks]⟩]

/-- Quoted text and expansions. -/
def quoted : List (Rule Context) :=
  [opens .plain (lit "\"") .double, opens .plain (lit "'") .single, token .escape anyEscape] ++
    expansions

/-- The end of a command, which is left in place. -/
def commandEnd : Probe := or lineEnd (oneOf [";", "|", "&", ")", "\x60"])

/-- A descriptor in front of a redirection, or after one. -/
def redirections : List (Rule Context) :=
  [parts [(.constant, seq (after Text.isBlank) (run Char.isDigit)), (.plain, oneOf [">&", "<&"]),
      (.constant, many Char.isDigit)],
    parts [(.constant, seq (after Text.isBlank) (run Char.isDigit)),
      (.plain, oneOf [">>", ">", "<"])],
    parts [(.plain, oneOf [">&", "<&"]), (.constant, run Char.isDigit)],
    token .plain (oneOf ["&>>", "&>", ">>", "<<<", "<<", ">&", ">", "<"])]

/-- The sign and the closing line of a document that follows the command, which is given. Quotes
around the closing line's text keep the document as it is. -/
def opensDocument (closing : String) : List (Rule Context) :=
  ["'", "\"", ""].map fun quote =>
    (parts [(.plain, oneOf ["<<-", "<<"]), (.plain, seq blanks (lit quote)),
      (.keyword, word [closing]), (.plain, lit quote)]).thenTurn
        (.push [.document closing quote.isEmpty])

/-- Words that usually close a document. -/
def closings : List String := ["EOF", "EOT", "EOL", "END", "EOS", "HERE", "DOC", "SQL", "TXT"]

/-- A sign that stands for other text in the name of a file. -/
def wildcard : Rule Context := token .plain (oneOf ["*", "?", "\x7b", "\x7d"])

/-- The start of a command. -/
def commands : List (Rule Context) :=
  [comment, opens .keyword (command ["for", "select"]) .loopHead,
    opens .keyword (command ["case"]) .caseHead,
    (parts [(.keyword, command ["function"]), (.plain, blanks), (.function, run inBareWord)]),
    parts [(.function, run inBareWord), (.plain, seq blanks (lit "()"))],
    token .keyword (command control), opens .keyword (command exits) .arguments,
    opens .keyword (command declarators) .declaration, opens .plain (oneOf [">", "<"]) .arguments,
    opens .library (oneOf ["[[ ", "[ "]) .test, ⟨[⟨lit "((", none⟩], .push [.arithmetic]⟩,
    (parts [(.variable, identifier), (.plain, or (lit "+=") (lit "="))]).thenTurn
      (.push [.assigned]),
    opens .library (command builtins) .arguments, opens .function (run inBareWord) .arguments]

/-- The rules of each context. -/
def rules : Context → List (Rule Context)
  | .command =>
    commands ++ mark (oneOf ["\x7b", "\x7d", "(", "|", "&", ";", "!"]) :: quoted ++ [sign]
  | .arguments =>
    [leave lineEnd] ++ closings.flatMap opensDocument ++ redirections ++
      [leave commandEnd, comment, wildcard,
        parts [(.variable, chain [run (fun c => c = ' ' || c = '\t'), lit "-", run inBareWord])]] ++
      quoted
  | .assigned =>
    [leave (or lineEnd (or commandEnd (one Text.isBlank)))] ++ quoted
  | .declaration =>
    [leave commandEnd, comment,
      (parts [(.variable, identifier), (.plain, lit "=")]).thenTurn (.push [.assigned]),
      token .variable identifier] ++ quoted
  | .loopHead =>
    [leave commandEnd,
      (token .keyword (seq (after Text.isBlank) (command ["in"]))).thenTurn
        (.swap [.loopItems])] ++ quoted
  | .loopItems => leave commandEnd :: wildcard :: quoted
  | .caseHead =>
    [leave lineEnd,
      (token .keyword (seq (after Text.isBlank) (command ["in"]))).thenTurn
        (.swap [.cases])] ++ quoted
  | .cases =>
    [comment, closes .keyword (word ["esac"]), ⟨[⟨lit ")", none⟩], .push [.caseCommands]⟩] ++ quoted
  | .caseCommands =>
    [⟨[⟨oneOf [";;&", ";;", ";&"], none⟩], .pop⟩, leave (word ["esac"])] ++ commands ++
      mark (oneOf ["\x7b", "\x7d", "(", "|", "&", ";", "!"]) :: quoted
  | .test =>
    [closes .library (oneOf ["]]", "]"]), mark (run "=!<>&|".toList.contains), leave lineEnd,
      token .variable (chain [after Text.isBlank, lit "-", run Char.isAlpha])] ++ quoted
  | .nested =>
    [⟨[⟨lit ")", none⟩], .pop⟩] ++ commands ++ token .plain (oneOf ["|", "&", ";"]) :: quoted
  | .backticks =>
    [⟨[⟨lit "\x60", some .plain⟩], .pop⟩] ++ commands ++
      token .plain (oneOf ["|", "&", ";"]) :: quoted
  | .arithmetic =>
    [⟨[⟨lit "))", none⟩], .pop⟩, token .constant number, token .variable identifier] ++ quoted ++
      [⟨[⟨lit "(", none⟩, ⟨lit "(", none⟩], .push [.arithmetic]⟩,
        token .plain (run "+-*/%=<>!&|^~?:,".toList.contains)]
  | .expansion =>
    [⟨[⟨lit "\x7d", none⟩], .pop⟩, token .plain (oneOf ["#", "!"]),
      (token .variable
        (or identifier (one fun c => c.isDigit || "@*?$-".toList.contains c))).thenTurn
          (.swap [.expansionRest])]
  | .expansionRest =>
    [⟨[⟨lit "\x7d", none⟩], .pop⟩,
      (token .plain (oneOf ["%%", "%", "##", "#", "//", "/"])).thenTurn (.swap [.expansionPattern]),
      (token .plain (oneOf [":-", ":=", ":+", ":?", "-", "=", "+", "?", "^^", "^", ",,", ",", ":",
        "@"])).thenTurn (.swap [.expansionValue])] ++ quoted
  | .expansionPattern =>
    [⟨[⟨lit "\x7d", none⟩], .pop⟩, token .plain (oneOf ["*", "?", "/"])] ++ quoted
  | .expansionValue => [⟨[⟨lit "\x7d", none⟩], .pop⟩] ++ quoted
  | .document closing expands =>
    closes .keyword (chain [lineStart, blanks, lit closing, ahead lineEnd]) ::
      (if expands then expansions else [])
  | .double =>
    [closes .plain (lit "\""),
      token .escape (seq (lit "\\") (one "$\x60\"\\\n".toList.contains))] ++
      expansions
  | .single => [closes .plain (lit "'")]

/-- The role of text that no rule gives one. -/
def ground : Context → Option Role
  | .assigned | .double | .single | .document _ _ => some .string
  | _ => none

/-- The grammar. -/
def grammar : Grammar := ⟨Context, .command, ground, rules⟩

end Folio.Highlight.Shell
