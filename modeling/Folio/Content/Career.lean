import Folio.Content.Markup

/-!
# Skills, jobs, degrees and achievements

The entries of the lists on the front page. A skill has a level from 0 to 255, of which at most 100
percent are shown.
-/

namespace Folio.Content

open Folio.Json (Record Shape Value)
open Folio.Json.Record (defaulted required field?)

/-- A skill and how well it is mastered. -/
structure Skill where
  name : String
  level : UInt8
  deriving Repr, DecidableEq, Inhabited

/-- The level as a percentage. -/
def Skill.percent (skill : Skill) : UInt8 := min skill.level 100

/-- A job. -/
structure Experience where
  role : String
  company : String
  period : Option String
  description : List TrustedHtml
  deriving Repr, DecidableEq, Inhabited

/-- A degree. -/
structure Education where
  degree : String
  institution : String
  period : Option String
  description : List TrustedHtml
  deriving Repr, DecidableEq, Inhabited

/-- An achievement. -/
structure Achievement where
  title : String
  period : Option String
  description : List TrustedHtml
  deriving Repr, DecidableEq, Inhabited

/-- The field for a period, which may be missing. -/
def periodField : String × Shape × Option Value := defaulted "period" (.optional .anyText) .null

/-- The field for markup, which may be missing. -/
def descriptionField : String × Shape × Option Value :=
  defaulted "description" TrustedHtml.listShape (.list [])

/-- The period of an entry. -/
def readPeriod? (value : Value) : Option (Option String) :=
  field? (Value.optional? Value.text?) "period" value

/-- The markup of an entry. -/
def readDescription? (value : Value) : Option (List TrustedHtml) :=
  field? TrustedHtml.readList? "description" value

instance : Record Skill where
  shape := .record [required "name" .anyText, required "level" (.number 255)]
  write skill := .object [("name", .text skill.name), ("level", .number skill.level.toNat)]
  read? value := do
    return {
      name := ← field? Value.text? "name" value
      level := UInt8.ofNat (← field? Value.number? "level" value) }

instance : Record Experience where
  shape :=
    .record [required "role" .anyText, required "company" .anyText, periodField, descriptionField]
  write entry :=
    .object
      [("role", .text entry.role), ("company", .text entry.company),
        ("period", .ofOption .text entry.period),
        ("description", TrustedHtml.writeList entry.description)]
  read? value := do
    return {
      role := ← field? Value.text? "role" value
      company := ← field? Value.text? "company" value
      period := ← readPeriod? value
      description := ← readDescription? value }

instance : Record Education where
  shape :=
    .record
      [required "degree" .anyText, required "institution" .anyText, periodField, descriptionField]
  write entry :=
    .object
      [("degree", .text entry.degree), ("institution", .text entry.institution),
        ("period", .ofOption .text entry.period),
        ("description", TrustedHtml.writeList entry.description)]
  read? value := do
    return {
      degree := ← field? Value.text? "degree" value
      institution := ← field? Value.text? "institution" value
      period := ← readPeriod? value
      description := ← readDescription? value }

instance : Record Achievement where
  shape := .record [required "title" .anyText, periodField, descriptionField]
  write entry :=
    .object
      [("title", .text entry.title), ("period", .ofOption .text entry.period),
        ("description", TrustedHtml.writeList entry.description)]
  read? value := do
    return {
      title := ← field? Value.text? "title" value
      period := ← readPeriod? value
      description := ← readDescription? value }

end Folio.Content
