import Folio.Json.Record

/-!
# Trusted markup

Markup that is shown as it is, without escaping. It comes from the content files only, so a text
from a request stays a `String` and is escaped.
-/

namespace Folio.Content

open Folio.Json (Shape Value)

/-- Markup that is shown as it is. -/
structure TrustedHtml where
  text : String
  deriving Repr, DecidableEq, Inhabited

namespace TrustedHtml

/-- The shape of a list of fragments. -/
def listShape : Shape := .list .anyText

/-- Fragments as a list of texts. -/
def writeList (fragments : List TrustedHtml) : Value := .texts (fragments.map text)

/-- Fragments from a list of texts. -/
def readList? : Value → Option (List TrustedHtml) :=
  Value.listOf? fun value => value.text?.map TrustedHtml.mk

end TrustedHtml

end Folio.Content
