import Folio.Content.Bio
import Folio.Content.Career
import Folio.Content.Profile

/-!
# Content files

The records of the content are read from files. If the text of a file is no record, the fault names
the file and says what is wrong with the text.
-/

namespace Folio.Content

open Folio.Json (Record)

/-- Why there is no record in a file. -/
structure FileFault where
  file : String
  source : Json.Fault
  deriving Repr, DecidableEq

/-- The text of a fault. -/
def FileFault.message (fault : FileFault) : String :=
  "couldn't parse content file " ++ fault.file

/-- Read a record from the text of a file. -/
def parseFile {α : Type} [Record α] (file : String) (raw : List Text.Symbol) :
    Except FileFault α :=
  (Record.parse raw).mapError fun source => { file, source }

/-- A type of records that are kept in a content file. -/
class InFile (α : Type) where
  file : String

instance : InFile Profile := ⟨"profile.json"⟩
instance : InFile HeroSlide := ⟨"profile.json"⟩
instance : InFile About := ⟨"about.json"⟩
instance : InFile BioSection := ⟨"about.json"⟩
instance : InFile TechGroup := ⟨"about.json"⟩
instance : InFile Skill := ⟨"skills.json"⟩
instance : InFile Experience := ⟨"experience.json"⟩
instance : InFile Education := ⟨"education.json"⟩
instance : InFile Achievement := ⟨"achievements.json"⟩

/-- Records of a type are kept with lists of them. -/
instance {α : Type} [InFile α] : InFile (List α) := ⟨InFile.file α⟩

/-- Read a record from the text of the file of its type. -/
def InFile.parse {α : Type} [Record α] [InFile α] (raw : List Text.Symbol) : Except FileFault α :=
  parseFile (InFile.file α) raw

end Folio.Content
