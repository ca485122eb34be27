import Folio.Markdown.Link

/-!
# Blocks

A document is a tree of blocks. Containers hold blocks; the others hold text, kept as tokens, since
a link's target may be defined later than the text in which it stands.
-/

namespace Folio.Markdown

/-- What a heading's trailing braces give it. -/
structure HeadingAttributes where
  id : Option (List Char)
  classes : List (List Char)
  others : List (List Char × Option (List Char))
  deriving Repr, DecidableEq, Inhabited

/-- The text of a block, and a task mark in front of it. -/
structure Leaf where
  task : Option Bool
  tokens : List Token
  deriving Repr, Inhabited

/-- How a paragraph is set. -/
inductive ParagraphRole where
  | loose
  /-- Without tags of its own, in a tight list. -/
  | tight
  /-- A possible title after a definition. -/
  | candidate
  deriving Repr, DecidableEq, Inhabited

/-- Blocks that hold blocks. -/
inductive Container where
  | document
  | quote (notice : Option Notice)
  | list (mark : ItemMark) (tight : Bool)
  | item (indent : Nat)
  | definitions (tight : Bool)
  | definition (indent : Nat)
  | footnote (label : List Char)
  deriving Repr, DecidableEq, Inhabited

/-- A block. -/
inductive Block where
  | container (kind : Container) (children : List Block)
  | paragraph (role : ParagraphRole) (text : Leaf)
  | title (text : Leaf)
  | heading (level : Nat) (attributes : HeadingAttributes) (text : Leaf)
  | rule
  /-- A code block, with its fence's information if it has a fence. -/
  | code (info : Option (List Char)) (text : List Char)
  /-- Raw HTML lines, each with the columns of indentation in front. -/
  | html (lines : List (Nat × List Char))
  | table (alignments : List Alignment) (head : List (List Token)) (rows : List (List (List Token)))
  /-- A task mark with no text after it. -/
  | task (done : Bool)
  /-- Data about the document, which is not shown. -/
  | metadata
  deriving Repr, Inhabited

namespace Block

/-- A paragraph as it is set in a tight list. -/
def tighten : Block → Block
  | .paragraph .loose text => .paragraph .tight text
  | block => block

/-- An item whose paragraphs are set as in a tight list. -/
def tightenItem : Block → Block
  | .container kind children => .container kind (children.map tighten)
  | block => block

/-- Whether a block belongs into a list of definitions. -/
def isDefinitionPart : Block → Bool
  | .title _ => true
  | .container (.definition _) _ => true
  | _ => false

/-- A candidate for a title that did not become one is a paragraph. -/
def settle : Block → Block
  | .paragraph .candidate text => .paragraph .loose text
  | block => block

end Block

end Folio.Markdown
