import Folio.Content.Markup
import Folio.Text.Blank

/-!
# The about section

A bio has sections of markup, some of which are hidden, and groups of icons for the tools that were
used. A section is hidden if its flag says so, or, without a flag, if its label has `side` in it.
-/

namespace Folio.Content

open Folio.Json (Record Shape Value)
open Folio.Json.Record (defaulted required field?)

/-- A section of the bio. -/
structure BioSection where
  label : String
  description : List TrustedHtml
  excluded : Option Bool
  deriving Repr, DecidableEq, Inhabited

/-- Whether a section is hidden. -/
def BioSection.isExcluded (bio : BioSection) : Bool :=
  bio.excluded.getD (Text.occursIn "side".toList bio.label.toList)

/-- The fragments of the sections that are shown, in order. -/
def visibleFragments (sections : List BioSection) : List TrustedHtml :=
  (sections.filter fun bio => !bio.isExcluded).flatMap BioSection.description

/-- A group of icons under a heading. -/
structure TechGroup where
  heading : String
  icons : List String
  deriving Repr, DecidableEq, Inhabited

/-- The about section. -/
structure About where
  sections : List BioSection
  techStack : List TechGroup
  deriving Repr, DecidableEq, Inhabited

instance : Record BioSection where
  shape :=
    .record
      [required "section" .anyText, required "description" TrustedHtml.listShape,
        defaulted "excluded" (.optional .flag) .null]
  write bio :=
    .object
      ([("section", .text bio.label), ("description", TrustedHtml.writeList bio.description)] ++
        match bio.excluded with
        | some flag => [("excluded", .flag flag)]
        | none => [])
  read? value := do
    return {
      label := ← field? Value.text? "section" value
      description := ← field? TrustedHtml.readList? "description" value
      excluded := ← field? (Value.optional? Value.flag?) "excluded" value }

instance : Record TechGroup where
  shape := .record [required "heading" .anyText, required "icons" (.list .anyText)]
  write group := .object [("heading", .text group.heading), ("icons", .texts group.icons)]
  read? value := do
    return {
      heading := ← field? Value.text? "heading" value
      icons := ← field? (Value.listOf? Value.text?) "icons" value }

instance : Record About where
  shape :=
    .record
      [defaulted "About" (Record.shape (List BioSection)) (.list []),
        defaulted "TechStack" (Record.shape (List TechGroup)) (.list [])]
  write about :=
    .object [("About", Record.write about.sections), ("TechStack", Record.write about.techStack)]
  read? value := do
    return {
      sections := ← field? Record.read? "About" value
      techStack := ← field? Record.read? "TechStack" value }

end Folio.Content
