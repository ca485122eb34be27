/-!
# Styles

How a stretch of a code listing is set: the colour of its letters, and where they differ from the
rest of the listing, the colour behind them, weight and slope.
-/

namespace Folio.Highlight

/-- How a span is set; `ground` is the colour behind it where that is not the listing's own. -/
structure Style where
  colour : String
  ground : Option String
  bold : Bool
  italic : Bool
  deriving Repr, DecidableEq, Inhabited

namespace Style

/-- Upright letters of normal weight in a colour, on the listing's ground. -/
def ofColour (colour : String) : Style := ⟨colour, none, false, false⟩

/-- The style of text without a meaning of its own. -/
def plain : Style := ofColour "#c0c5ce"

/-- The style's declarations. -/
def css (style : Style) : String :=
  style.ground.elim "" (fun ground => "background-color:" ++ ground ++ ";") ++
    (if style.bold then "font-weight:bold;" else "") ++
    (if style.italic then "font-style:italic;" else "") ++
    "color:" ++ style.colour ++ ";"

end Style

/-- What a stretch of code is to its reader. -/
inductive Role where
  | plain
  | comment
  | keyword
  | variable
  | function
  | library
  | className
  | classBody
  | string
  | escape
  | constant
  | tag
  | attribute
  | identity
  | selector
  | heading
  | strong
  | emphasis
  | linkText
  | linkTarget
  | item
  | quotation
  | separator
  | inserted
  | deleted
  | embedding
  | illegal
  deriving Repr, DecidableEq, Inhabited

/-- The style of each role. -/
def Role.style : Role → Style
  | .plain => .plain
  | .comment => .ofColour "#65737e"
  | .keyword | .selector => .ofColour "#b48ead"
  | .variable | .tag | .linkText | .item | .deleted => .ofColour "#bf616a"
  | .function | .identity | .heading => .ofColour "#8fa1b3"
  | .library | .escape => .ofColour "#96b5b4"
  | .className => .ofColour "#ebcb8b"
  | .classBody => .ofColour "#eff1f5"
  | .string | .inserted => .ofColour "#a3be8c"
  | .constant | .attribute | .linkTarget | .quotation => .ofColour "#d08770"
  | .embedding => .ofColour "#ab7967"
  | .strong => { Style.ofColour "#ebcb8b" with bold := true }
  | .emphasis => { Style.ofColour "#b48ead" with italic := true }
  | .separator => { Style.plain with ground := some "#4f5b66" }
  | .illegal => ⟨"#2b303b", some "#bf616a", false, false⟩

end Folio.Highlight
