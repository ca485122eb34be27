import Folio.Pattern.Match
import Folio.Pattern.Meaning
import Folio.Pattern.Parser
import Folio.Pattern.Size

/-!
# Searching

A text is read as a pattern and compiled to an expression that tells which texts match.
-/

namespace Folio.Pattern

/-- The text of the fault of an expression that is too large. -/
def tooLargeMessage : String :=
  "Compiled regex exceeds size limit of " ++ toString Machine.sizeLimit ++ " bytes."

/-- The expression that a pattern stands for in a search. -/
def Regex.ofPattern (pattern : List Char) : Except Fault Regex := do
  let tree ← Tree.ofPattern pattern
  let (r, _) ← tree.regex .search
  return r

/-- The expression of a pattern that is well formed and not too large, or the report of its
fault. -/
def compile (pattern : List Char) : Except String Regex :=
  match Regex.ofPattern pattern with
  | .error fault => .error (fault.report pattern)
  | .ok r => if r.isTooLarge then .error tooLargeMessage else .ok r

end Folio.Pattern
