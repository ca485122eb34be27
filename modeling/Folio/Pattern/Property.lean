import Folio.Pattern.Tree
import Folio.Text.Age
import Folio.Text.Segmentation

/-!
# Classes by property

A property is named by a trait, a general category or a script, or as one of the properties that
have values with one of them: also an age, or a class of characters for cutting a text. In names,
case, spaces, hyphens and underscores do not count, nor does `is` in front.
-/

namespace Folio.Pattern

open Folio.Text (Category CharSet Edition GraphemeClass Script SentenceClass Trait WordClass)

/-- A name without what does not count in it. -/
def looseName (name : List Char) : String :=
  let opens := match name with
    | i :: s :: _ => i.toLower = 'i' && s.toLower = 's'
    | _ => false
  let rest := if opens then name.drop 2 else name
  let kept := rest.filter fun c => c ≠ ' ' && c ≠ '_' && c ≠ '-' && c.toNat < 128
  let kept := String.ofList (kept.map Char.toLower)
  if opens && kept = "c" then "isc" else kept

/-- What an entry of a table of names stands for. -/
def named? {α : Type} (table : List (List String × α)) (name : String) : Option α :=
  (table.find? fun entry => entry.1.contains name).map Prod.snd

/-- The names of properties that are no traits, without those of category and script. -/
def otherProperties : List String :=
  ["age", "bc", "bidiclass", "bidimirroringglyph", "bidipairedbracket", "bidipairedbrackettype",
    "blk", "block", "bmg", "bpb", "bpt", "canonicalcombiningclass", "casefolding", "ccc", "ce",
    "cf", "changeswhennfkccasefolded", "cjkaccountingnumeric", "cjkcompatibilityvariant",
    "cjkiicore", "cjkirggsource", "cjkirghsource", "cjkirgjsource", "cjkirgkpsource",
    "cjkirgksource", "cjkirgmsource", "cjkirgssource", "cjkirgtsource", "cjkirguksource",
    "cjkirgusource", "cjkirgvsource", "cjkothernumeric", "cjkprimarynumeric", "cjkrsunicode",
    "compex", "compositionexclusion", "cwkcf", "decompositionmapping", "decompositiontype", "dm",
    "dt", "ea", "eastasianwidth", "equideo", "equivalentunifiedideograph", "expandsonnfc",
    "expandsonnfd", "expandsonnfkc", "expandsonnfkd", "fcnfkc", "fcnfkcclosure",
    "fullcompositionexclusion", "gcb", "graphemeclusterbreak", "hangulsyllabletype", "hst", "incb",
    "indicconjunctbreak", "indicpositionalcategory", "indicsyllabiccategory", "inpc", "insc", "isc",
    "jamoshortname", "jg", "joininggroup", "joiningtype", "jsn", "jt", "kaccountingnumeric",
    "kcompatibilityvariant", "kehcat", "kehdesc", "kehhg", "kehifao", "kehjsesh", "kehnomirror",
    "kehnorotate", "kiicore", "kirggsource", "kirghsource", "kirgjsource", "kirgkpsource",
    "kirgksource", "kirgmsource", "kirgssource", "kirgtsource", "kirguksource", "kirgusource",
    "kirgvsource", "kothernumeric", "kprimarynumeric", "krsunicode", "lb", "lc", "linebreak",
    "lowercasemapping", "na", "na1", "name", "namealias", "nfcqc", "nfcquickcheck", "nfdqc",
    "nfdquickcheck", "nfkccasefold", "nfkccf", "nfkcqc", "nfkcquickcheck", "nfkcscf",
    "nfkcsimplecasefold", "nfkdqc", "nfkdquickcheck", "nt", "numerictype", "numericvalue", "nv",
    "otherdefaultignorablecodepoint", "odi", "sb", "scf", "sentencebreak", "sfc",
    "simplecasefolding", "simplelowercasemapping", "simpletitlecasemapping",
    "simpleuppercasemapping", "slc", "stc", "suc", "tc", "titlecasemapping", "uc", "unicode1name",
    "unicoderadicalstroke", "uppercasemapping", "urs", "verticalorientation", "vo", "wb",
    "wordbreak", "xonfc", "xonfd", "xonfkc", "xonfkd"]

/-- The names of the general category as a property. -/
def categoryProperty : List String := ["gc", "generalcategory"]

/-- The names of the script as a property. -/
def scriptProperty : List String := ["sc", "script"]

/-- The names of the extended script as a property. -/
def extensionProperty : List String := ["scx", "scriptextensions"]

/-- The characters of a value of one of the other properties, if its values have classes. -/
def otherValue? (name value : String) : Option CharSet :=
  if name = "age" then Edition.named? value
  else if name = "gcb" || name = "graphemeclusterbreak" then
    (named? GraphemeClass.names value).map GraphemeClass.set
  else if name = "wb" || name = "wordbreak" then (named? WordClass.names value).map WordClass.set
  else if name = "sb" || name = "sentencebreak" then
    (named? SentenceClass.names value).map SentenceClass.set
  else none

/-- The characters of a general category, of a group of them, or of one of the classes that count
as such; none for surrogates, which are no characters. -/
def category? (name : String) : Option (Except Cause CharSet) :=
  if name = "any" then some (.ok .all)
  else if name = "assigned" then some (.ok Category.unassigned.set.compl)
  else if name = "ascii" then some (.ok ⟨[⟨0, 0x7F⟩]⟩)
  else if name = "cs" || name = "surrogate" then some (.error .propertyValueUnknown)
  else (named? Category.names name).map fun categories => .ok (Category.setOf categories)

/-- The scripts that have names and no characters. -/
def emptyScripts : List String := ["hrkt", "katakanaorhiragana", "unknown", "zzzz"]

/-- The script of a name. -/
def script? (name : String) : Option (Except Cause Script) :=
  if emptyScripts.contains name then some (.error .propertyValueUnknown)
  else (Script.all.find? fun script => script.names.contains name).map .ok

/-- The characters of a class that one name stands for: of a trait, a category or a script. The
short names of two categories and of a group are also those of other properties, which give way. -/
def plainClass (name : String) : Except Cause CharSet :=
  let first := if name = "cf" || name = "sc" || name = "lc" then none else some name
  match first.bind (named? Trait.names) with
  | some trait => .ok trait.set
  | none =>
    let others := otherProperties ++ categoryProperty ++ scriptProperty ++ extensionProperty
    if first.any others.contains then .error .propertyUnknown
    else
      match category? name with
      | some set => set
      | none =>
        match script? name with
        | some script => script.map Script.set
        | none => .error .propertyUnknown

/-- The characters of a class that a property and a value stand for. -/
def valuedClass (name value : String) : Except Cause CharSet :=
  if categoryProperty.contains name then (category? value).getD (.error .propertyValueUnknown)
  else if scriptProperty.contains name then
    (((script? value).getD (.error .propertyValueUnknown))).map Script.set
  else if extensionProperty.contains name then
    (((script? value).getD (.error .propertyValueUnknown))).map Script.extendedSet
  else if otherProperties.contains name || (named? Trait.names name).isSome then
    match otherValue? name value with
    | some set => .ok set
    | none => .error .propertyValueUnknown
  else .error .propertyUnknown

/-- The characters of a class by property. -/
def PropertyName.set : PropertyName → Except Cause CharSet
  | .plain name => plainClass (looseName name)
  | .valued name value => valuedClass (looseName name) (looseName value)

end Folio.Pattern
