import Folio.Highlight.Language.Shell

/-!
# Makefiles

Rules, whose recipes are shell commands, and variables.
-/

namespace Folio.Highlight.Make

open Probe Rule

/-- The contexts of the grammar. -/
inductive Context where
  | file
  | prerequisites
  | value
  | reference
  | recipe (inner : Shell.Context)

/-- Words that start a directive. -/
def directives : List String :=
  ["include", "ifdef", "ifndef", "ifeq", "ifneq", "else", "endif", "define", "endef", "export",
    "unexport", "override", "vpath"]

/-- References to variables. -/
def references : List (Rule Context) :=
  [opens .keyword (oneOf ["$(", "$\x7b"]) .reference,
    token .variable (seq (lit "$") (one "@<^?*%+|".toList.contains))]

/-- The rules of each context. -/
def rules : Context → List (Rule Context)
  | .file =>
    [token .comment (seq (lit "#") restOfLine),
      (mark (seq lineStart (lit "\t"))).thenTurn (.push [.recipe .command]),
      token .keyword (word directives),
      (parts [(.variable, chain [lineStart, run fun c => !":=+?#$ \t\n".toList.contains c]),
        (.plain, blanks), (.plain, oneOf ["=", ":=", "?=", "+=", "::="])]).thenTurn
        (.push [.value]),
      (parts [(.function, chain [lineStart, run fun c => !":=#$\t\n ".toList.contains c]),
        (.plain, blanks), (.plain, lit ":")]).thenTurn (.push [.prerequisites])] ++ references
  | .prerequisites => leave lineEnd :: references
  | .value => leave lineEnd :: references
  | .reference => [closes .keyword (oneOf [")", "\x7d"]), token .variable identifier]
  | .recipe inner => leave (seq lineStart (notAhead (lit "\t"))) ::
    (Shell.rules inner).map (Rule.map .recipe)

/-- The role of text that no rule gives one. -/
def ground : Context → Option Role
  | .prerequisites | .value => some .string
  | .recipe inner => Shell.ground inner
  | _ => none

/-- The grammar. -/
def grammar : Grammar := ⟨Context, .file, ground, rules⟩

end Folio.Highlight.Make
