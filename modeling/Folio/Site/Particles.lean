import Folio.Json.Value

/-!
# The particle field

The parameters of the field of particles behind the first section, in the form in which the script
that draws it takes them.
-/

namespace Folio.Site

open Folio.Json (Value)

/-- What particles do near the pointer. -/
inductive HoverMode where
  | grab
  | bubble
  | repulse
  deriving Repr, DecidableEq

/-- The name of a mode. -/
def HoverMode.name : HoverMode → String
  | .grab => "grab"
  | .bubble => "bubble"
  | .repulse => "repulse"

/-- The parameters of the field. -/
structure ParticleField where
  color : String := "#000000"
  linkColor : String := "#000000"
  number : UInt32 := 50
  size : UInt32 := 3
  /-- Whether particles react to the pointer. -/
  reacts : Bool := true
  mode : HoverMode := .repulse
  deriving Repr, DecidableEq

namespace ParticleField

/-- The id of the element in which the field is drawn. -/
def elementId : String := "particles-js"

/-- A parameter as an object with one member. -/
def member (value : Value) : Value := .object [("value", value)]

/-- The parameters as one value. -/
def value (field : ParticleField) : Value :=
  .object
    [("particles",
      .object
        [("color", member (.text field.color)),
          ("line_linked", .object [("color", member (.text field.linkColor))]),
          ("number", member (.number field.number.toNat)),
          ("size", member (.number field.size.toNat))]),
      ("interactivity",
        .object
          [("events",
            .object
              [("onhover",
                .object [("enable", .flag field.reacts), ("mode", .text field.mode.name)])])])]

/-- The text of the parameters. -/
def text (field : ParticleField) : String := String.ofList field.value.print

end ParticleField

end Folio.Site
