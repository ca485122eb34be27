import Folio.Json.Shape

/-!
# Records in JSON

A type of records has a shape, a way to write a record as a value, and a way to read it from a
value of that shape.
-/

namespace Folio.Json

/-- A type whose values are kept as JSON. -/
class Record (α : Type) where
  shape : Shape
  write : α → Value
  read? : Value → Option α

namespace Record

/-- Read a record from a text. -/
def parse {α : Type} [Record α] (s : List Text.Symbol) : Except Fault α := do
  match read? (← (shape α).parse s) with
  | some record => return record
  | none => throw .wrongData

/-- The text of a record. -/
def print {α : Type} [Record α] (record : α) : List Char := (write record).print

/-- The text of the record that a text spells. -/
def reprint (α : Type) [Record α] (s : List Text.Symbol) : Except Fault (List Char) :=
  (parse s : Except Fault α).map print

/-- A field that must be there. -/
def required (name : String) (shape : Shape) : String × Shape × Option Value := (name, shape, none)

/-- A field that may be missing. -/
def defaulted (name : String) (shape : Shape) (absent : Value) : String × Shape × Option Value :=
  (name, shape, some absent)

/-- The record in a field of an object. -/
def field? {α : Type} (read? : Value → Option α) (name : String) (value : Value) : Option α :=
  (value.entry? name).bind read?

/-- Records in a list. -/
instance {α : Type} [Record α] : Record (List α) where
  shape := .list (shape α)
  write records := .list (records.map write)
  read? := Value.listOf? read?

end Record

end Folio.Json
