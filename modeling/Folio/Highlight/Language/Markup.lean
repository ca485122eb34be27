import Folio.Highlight.Language.Css
import Folio.Highlight.Language.JavaScript

/-!
# HTML and XML

Tags with attributes, comments, declarations and character entities. In HTML, scripts and style
sheets are read in their own languages up to their closing tags, and so are the attributes that hold
a script or the properties of a style.
-/

namespace Folio.Highlight.Markup

open Probe Rule

/-- The contexts of the grammar. -/
inductive Context where
  | text
  | comment
  | raw
  | declaration
  | instruction
  | tag (content : Option Bool)
  | attributeValue (quote : String)
  | script (inner : JavaScript.Context)
  | sheet (inner : Css.Context)
  | codeValue (quote : String)
  | scriptValue (quote : String) (inner : JavaScript.Context)
  | styleValue (quote : String) (inner : Css.Context)

/-- A character of a name. -/
def inName (c : Char) : Bool := inWord c || c = '-' || c = ':' || c = '.'

/-- A name. -/
def name : Probe := seq (one fun c => inWord c && !c.isDigit) (many inName)

/-- Character entities. -/
def entities (html : Bool) : List (Rule Context) :=
  let edge : Role := if html then .identity else .constant
  let body : Probe := or (seq (lit "#") (or (run Char.isDigit)
    (seq (oneOf ["x", "X"]) (run isHex)))) (run Char.isAlphanum)
  [parts [(edge, lit "&"), (.constant, body), (edge, lit ";")], token .illegal (lit "&")]

/-- The content that a tag of HTML opens in another language: a script or a style sheet. -/
def contentOf : List (Option Bool × Probe) :=
  [(some true, wordAnyCase ["script"]), (some false, wordAnyCase ["style"])]

/-- Attributes that hold code. -/
def codeAttributes : List (Rule Context) :=
  ["\"", "'"].flatMap fun quote =>
    let holds (name : Probe) (inner : Context) : Rule Context :=
      ⟨[⟨seq name (notAhead (one inName)), some .attribute⟩, ⟨many Text.isBlank, none⟩,
          ⟨lit "=", none⟩, ⟨many Text.isBlank, none⟩, ⟨lit quote, some .plain⟩],
        .push [.codeValue quote, inner]⟩
    [holds (chain [after fun c => !inName c, litAnyCase "on", run Char.isAlpha])
        (.scriptValue quote .code),
      holds (wordAnyCase ["style"]) (.styleValue quote .properties)]

/-- Attributes of a tag. -/
def attributes (html : Bool) : List (Rule Context) :=
  (if html then codeAttributes else []) ++
  [⟨[⟨lit "=", none⟩, ⟨many Text.isBlank, none⟩, ⟨lit "\"", some .plain⟩],
      .push [.attributeValue "\""]⟩,
    ⟨[⟨lit "=", none⟩, ⟨many Text.isBlank, none⟩, ⟨lit "'", some .plain⟩],
      .push [.attributeValue "'"]⟩,
    ⟨[⟨lit "=", none⟩, ⟨many Text.isBlank, none⟩,
      ⟨run fun c => !Text.isBlank c && c ≠ '>', some .string⟩], .stay⟩] ++
  (if html then [token .identity (seq (wordAnyCase ["id"]) (notAhead (one inName)))] else []) ++
  [token .attribute name, sign]

/-- The end of a tag with what follows it. -/
def tagEnd : Option Bool → List (Rule Context)
  | none => [closes .plain (oneOf ["/>", ">"])]
  | some true =>
    [closes .plain (lit "/>"), (token .plain (lit ">")).thenTurn (.swap [.script .code])]
  | some false =>
    [closes .plain (lit "/>"), (token .plain (lit ">")).thenTurn (.swap [.sheet .sheet])]

/-- The rules of each context, for HTML or for XML. -/
def rules (html : Bool) : Context → List (Rule Context)
  | .text =>
    [opens .comment (lit "<!--") .comment,
      (parts [(.plain, lit "<?"), (.tag, name)]).thenTurn (.push [.instruction])] ++
    (if html then
      [(parts [(.plain, lit "<!"), (.tag, wordAnyCase ["doctype"])]).thenTurn
        (.push [.declaration])]
    else
      [opens .plain (lit "<![CDATA[") .raw,
        (parts [(.plain, lit "<!"), (.keyword, word ["DOCTYPE"])]).thenTurn
          (.push [.declaration])]) ++
    (if html then
      contentOf.map fun (content, probe) =>
        (parts [(.plain, lit "<"), (.tag, probe)]).thenTurn (.push [.tag content])
    else []) ++
    [(parts [(.plain, oneOf ["</", "<"]), (.tag, name)]).thenTurn (.push [.tag none])] ++
    entities html
  | .comment => [closes .comment (lit "-->")]
  | .raw => [closes .plain (lit "]]>")]
  | .declaration =>
    [closes .plain (lit ">"), opens .plain (lit "\"") (.attributeValue "\"")] ++
      (if html then [] else [token .variable name])
  | .instruction => closes .plain (lit "?>") :: attributes html
  | .tag content => tagEnd content ++ attributes html
  | .attributeValue quote => closes .plain (lit quote) :: entities html
  | .codeValue quote => [closes .plain (lit quote)]
  | .scriptValue quote inner =>
    leave (lit quote) :: (JavaScript.rules inner).map (Rule.map (.scriptValue quote))
  | .styleValue quote inner =>
    leave (lit quote) :: (Css.rules inner).map (Rule.map (.styleValue quote))
  | .script inner =>
    leave (litAnyCase "</script") :: (JavaScript.rules inner).map (Rule.map .script)
  | .sheet inner => leave (litAnyCase "</style") :: (Css.rules inner).map (Rule.map .sheet)

/-- The role of text that no rule gives one. -/
def ground : Context → Option Role
  | .comment => some .comment
  | .raw | .attributeValue _ => some .string
  | .script inner => JavaScript.ground inner
  | .sheet inner => Css.ground inner
  | .scriptValue _ inner => JavaScript.ground inner
  | .styleValue _ inner => Css.ground inner
  | _ => none

/-- The grammar of HTML. -/
def html : Grammar := ⟨Context, .text, ground, rules true⟩

/-- The grammar of XML. -/
def xml : Grammar := ⟨Context, .text, ground, rules false⟩

end Folio.Highlight.Markup
