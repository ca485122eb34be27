import Folio.Highlight.Lexeme

/-!
# CSS

Selectors, at-rules and the properties between braces.
-/

namespace Folio.Highlight.Css

open Probe Rule

/-- The contexts of the grammar. -/
inductive Context where
  | sheet
  | comment
  | selector
  | atRule
  | grouping
  | grouped
  | properties
  | value
  | call
  | link
  | text (quote : String)

/-- A character of a name. -/
def inName (c : Char) : Bool := inWord c || c = '-'

/-- A name. -/
def name : Probe :=
  chain [after fun c => !inName c, one fun c => inName c && !c.isDigit, many inName]

/-- A number. -/
def quantity : Probe :=
  let fraction : Probe := seq (lit ".") (run Char.isDigit)
  seq (maybe (oneOf ["-", "+"])) (or (seq (run Char.isDigit) (maybe fraction)) fraction)

/-- The names of elements. -/
def elements : List String :=
  ["a", "abbr", "acronym", "address", "applet", "area", "article", "aside", "audio", "b", "base",
    "big", "blockquote", "body", "br", "button", "canvas", "caption", "center", "circle", "cite",
    "code", "col", "colgroup", "command", "data", "datalist", "dd", "del", "details", "dfn",
    "dialog", "dir", "div", "dl", "dt", "ellipse", "em", "embed", "fieldset", "figcaption",
    "figure", "font", "footer", "form", "frame", "frameset", "g", "h1", "h2", "h3", "h4", "h5",
    "h6", "head", "header", "hgroup", "hr", "html", "i", "iframe", "image", "img", "input", "ins",
    "kbd", "keygen", "label", "legend", "li", "line", "link", "main", "map", "mark", "math",
    "menu", "menuitem", "meta", "meter", "nav", "noframes", "noscript", "object", "ol", "optgroup",
    "option", "output", "p", "param", "path", "picture", "polygon", "polyline", "pre", "progress",
    "q", "rb", "rect", "rp", "rt", "rtc", "ruby", "s", "samp", "script", "section", "select",
    "small", "source", "span", "strike", "strong", "style", "sub", "summary", "sup", "svg",
    "table", "tbody", "td", "template", "text", "textarea", "textpath", "tfoot", "th", "thead",
    "time", "title", "tr", "track", "tspan", "tt", "u", "ul", "use", "var", "video", "wbr"]

/-- A name of an element, or one with a hyphen, which may be an element's. -/
def element : Probe := fun before rest => do
  let n ← name before rest
  let found := String.ofList ((rest.take n).map Char.toLower)
  if elements.contains found || found.toList.contains '-' then n else none

/-- Comments. -/
def comments : List (Rule Context) := [opens .comment (lit "/*") .comment]

/-- Quoted text. -/
def quoted : List (Rule Context) :=
  [opens .plain (lit "\"") (.text "\""), opens .plain (lit "'") (.text "'")]

/-- What may stand in a value. -/
def values : List (Rule Context) :=
  comments ++ quoted ++
  [⟨[⟨seq (lit "#") (run isHex), some .escape⟩], .stay⟩,
    parts [(.constant, quantity), (.constant, maybe (or (lit "%") (run Char.isAlpha)))],
    ⟨[⟨litAnyCase "url", some .library⟩, ⟨lit "(", none⟩], .push [.link]⟩,
    ⟨[⟨name, some .library⟩, ⟨lit "(", none⟩], .push [.call]⟩,
    token .keyword (chain [lit "!", blanks, litAnyCase "important"]),
    mark name, sign]

/-- Rules at the top of a sheet, or of a group of rules. -/
def topRules : List (Rule Context) :=
  comments ++ [opens .keyword (seq (lit "@") (word ["media", "supports"])) .grouping,
    opens .keyword (seq (lit "@") name) .atRule, ⟨[⟨lit "\x7b", none⟩], .push [.properties]⟩,
    ⟨[⟨lit "\x7d", none⟩], .stay⟩,
    ⟨[⟨ahead (one fun c => !Text.isBlank c), none⟩], .push [.selector]⟩]

/-- The rules of each context. -/
def rules : Context → List (Rule Context)
  | .sheet => topRules
  | .grouping =>
    [closes .plain (lit ";"), leave (lit "\x7d"),
      ⟨[⟨lit "\x7b", none⟩], .swap [.grouped]⟩] ++ values
  | .grouped => ⟨[⟨lit "\x7d", none⟩], .pop⟩ :: topRules
  | .comment => [closes .comment (lit "*/")]
  | .selector =>
    [leave (oneOf ["\x7b", "\x7d"])] ++ comments ++ quoted ++
      [parts [(.identity, lit "."), (.attribute, name)],
        parts [(.identity, lit "#"), (.identity, name)],
        parts [(.identity, run (· = ':')), (.selector, name)],
        ⟨[⟨lit "[", some .selector⟩, ⟨blanks, none⟩, ⟨name, some .attribute⟩], .stay⟩,
        token .tag (or (lit "*") element), mark name, token .plain (oneOf [">", "+", "~"]), sign]
  | .atRule =>
    [closes .plain (lit ";"), leave (oneOf ["\x7b", "\x7d"])] ++ values
  | .properties =>
    [⟨[⟨lit "\x7d", none⟩], .pop⟩] ++ comments ++
      [⟨[⟨lit ":", none⟩], .push [.value]⟩, ⟨[⟨lit "\x7b", none⟩], .push [.properties]⟩,
        opens .keyword (seq (lit "@") name) .atRule, mark name, sign]
  | .value => [leave (oneOf [";", "\x7d"])] ++ values
  | .call => [⟨[⟨lit ")", none⟩], .pop⟩, ⟨[⟨lit "(", none⟩], .push [.call]⟩] ++ values
  | .link =>
    [⟨[⟨lit ")", some .plain⟩], .pop⟩] ++ quoted ++
      [token .string (run fun c => !")\"' \n".toList.contains c)]
  | .text quote => [closes .plain (lit quote), token .escape anyEscape, leave lineEnd]

/-- The role of text that no rule gives one. -/
def ground : Context → Option Role
  | .comment => some .comment
  | .selector => some .selector
  | .text _ => some .string
  | _ => none

/-- The grammar. -/
def grammar : Grammar := ⟨Context, .sheet, ground, rules⟩

end Folio.Highlight.Css
