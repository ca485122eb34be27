import Folio.Text.Script
import Folio.Text.Trait

/-!
# Classes for cutting a text

Where a grapheme, a word or a sentence ends depends on the classes of the characters around the
place. For each of the three there is one partition of the characters; those that are in none of its
classes here are the other ones, which have no name.
-/

namespace Folio.Text

/-- What the rules for graphemes tell apart. -/
inductive GraphemeClass where
  | carriageReturn
  | lineFeed
  | control
  | extend
  | joiner
  | regionalIndicator
  | prepend
  | spacingMark
  | leading
  | vowel
  | trailing
  | openSyllable
  | closedSyllable
  deriving Repr, DecidableEq

namespace GraphemeClass

/-- The characters that go on with a grapheme. -/
def extendSet : CharSet := Trait.graphemeExtendSet.union (.ofTable Trait.emojiModifier.table)

/-- The number of syllables of a first consonant and a vowel. -/
def openSyllables : Nat := 399

/-- The syllables of a first consonant and a vowel: with the last consonants of each one they are
28 in a row. -/
def openSyllableSet : CharSet :=
  ⟨(List.range openSyllables).map fun i => ⟨0xAC00 + 28 * i, 0xAC00 + 28 * i⟩⟩

/-- The characters of a class. -/
def set : GraphemeClass → CharSet
  | .carriageReturn => .single 0xD
  | .lineFeed => .single 0xA
  | .control =>
    let unused := Category.unassigned.set.inter Trait.defaultIgnorable.set
    let others := Category.setOf [.lineSeparator, .paragraphSeparator, .control, .format]
    (unused.union others).diff
      (.unions [.ofTable "A D 200C-200D", Trait.prependedConcatenationMark.set, extendSet])
  | .extend => extendSet
  | .joiner => .single 0x200D
  | .regionalIndicator => Trait.regionalIndicator.set
  | .prepend =>
    Trait.prependedConcatenationMark.set.union
      (.ofTable "D4E 111C2-111C3 113D1 1193F 11941 11A3A 11A84-11A89 11D46 11F02")
  | .spacingMark =>
    ((Category.spacingMark.set.diff Trait.graphemeExtendSet).union (.ofTable "E33 EB3")).diff
      (.ofTable
        "102B-102C 1038 1062-1064 1067-106D 1083 1087-108C 108F 109A-109C 1A61 1A63-1A64 AA7B AA7D
         11720-11721")
  | .leading => .ofTable "1100-115F A960-A97C"
  | .vowel => .ofTable "1160-11A7 D7B0-D7C6 16D63 16D67-16D6A"
  | .trailing => .ofTable "11A8-11FF D7CB-D7FB"
  | .openSyllable => openSyllableSet
  | .closedSyllable => (CharSet.ofTable "AC00-D7A3").diff openSyllableSet

/-- The names of the classes in small letters without spaces. -/
def names : List (List String × GraphemeClass) :=
  [(["cr"], .carriageReturn), (["lf"], .lineFeed), (["cn", "control"], .control),
    (["ex", "extend"], .extend), (["zwj"], .joiner),
    (["ri", "regionalindicator"], .regionalIndicator), (["pp", "prepend"], .prepend),
    (["sm", "spacingmark"], .spacingMark), (["l"], .leading), (["v"], .vowel), (["t"], .trailing),
    (["lv"], .openSyllable), (["lvt"], .closedSyllable)]

end GraphemeClass

/-- What the rules for words tell apart. -/
inductive WordClass where
  | carriageReturn
  | lineFeed
  | newline
  | extend
  | joiner
  | regionalIndicator
  | format
  | katakana
  | hebrewLetter
  | letter
  | singleQuote
  | doubleQuote
  | midNumberLetter
  | midLetter
  | midNumber
  | numeric
  | extendNumberLetter
  | blank
  deriving Repr, DecidableEq

namespace WordClass

/-- The characters that go on with the one in front of them. -/
def extendSet : CharSet := GraphemeClass.extendSet.union Category.spacingMark.set

/-- The marks in front of a number: with it they are one word. -/
def numberMarkSet : CharSet := Trait.prependedConcatenationMark.set.diff (.single 0x70F)

/-- The numeric characters. -/
def numericSet : CharSet :=
  .unions [Category.decimalNumber.set, .single 0x66B, numberMarkSet]

/-- The characters of some scripts that write words without spaces between them. -/
def unspacedSet : CharSet :=
  let scripts := ["thai", "laoo", "mymr", "khmr", "tale", "talu", "lana", "tavt", "ahom", "hira"]
  .unions ((Script.all.filter fun script => script.names.any scripts.contains).map Script.set)

/-- The characters of a script in its own name. -/
def scriptSet (name : String) : CharSet :=
  .unions ((Script.all.filter fun script => script.names.contains name).map Script.set)

/-- The katakana, with the marks that belong to them. -/
def katakanaSet : CharSet :=
  (scriptSet "kana").union (.ofTable "3031-3035 309B-309C 30A0 30FC FF70")

/-- The Hebrew letters. -/
def hebrewSet : CharSet := (scriptSet "hebr").inter Category.otherLetter.set

/-- The characters of a class. -/
def set : WordClass → CharSet
  | .carriageReturn => .single 0xD
  | .lineFeed => .single 0xA
  | .newline => .ofTable "B-C 85 2028-2029"
  | .extend => extendSet
  | .joiner => .single 0x200D
  | .regionalIndicator => Trait.regionalIndicator.set
  | .format =>
    Category.format.set.diff
      (.unions [.ofTable "200B-200D", Trait.prependedConcatenationMark.set,
        Trait.graphemeExtendSet])
  | .katakana => katakanaSet
  | .hebrewLetter => hebrewSet
  | .letter =>
    (Trait.alphabetic.set.union
      (.ofTable
        "2C2-2C5 2D2-2D7 2DE-2DF 2E5-2EB 2ED 2EF-2FF 55A-55C 55E 58A 5F3 70F A708-A716 A720-A721
         A789-A78A AB5B")).diff
      (.unions [extendSet, Trait.ideographic.set, katakanaSet, hebrewSet, unspacedSet])
  | .singleQuote => .single 0x27
  | .doubleQuote => .single 0x22
  | .midNumberLetter => .ofTable "2E 2018-2019 2024 FE52 FF07 FF0E"
  | .midLetter => .ofTable "3A B7 387 55F 5F4 2027 FE13 FE55 FF1A"
  | .midNumber => .ofTable "2C 3B 37E 589 60C-60D 66C 7F8 2044 FE10 FE14 FE50 FE54 FF0C FF1B"
  | .numeric => numericSet
  | .extendNumberLetter => .ofTable "5F 202F 203F-2040 2054 FE33-FE34 FE4D-FE4F FF3F"
  | .blank => .ofTable "20 1680 2000-2006 2008-200A 205F 3000"

/-- The names of the classes in small letters without spaces. -/
def names : List (List String × WordClass) :=
  [(["cr"], .carriageReturn), (["lf"], .lineFeed), (["nl", "newline"], .newline),
    (["extend"], .extend), (["zwj"], .joiner), (["ri", "regionalindicator"], .regionalIndicator),
    (["fo", "format"], .format), (["ka", "katakana"], .katakana),
    (["hl", "hebrewletter"], .hebrewLetter), (["le", "aletter"], .letter),
    (["sq", "singlequote"], .singleQuote), (["dq", "doublequote"], .doubleQuote),
    (["mb", "midnumlet"], .midNumberLetter), (["ml", "midletter"], .midLetter),
    (["mn", "midnum"], .midNumber), (["nu", "numeric"], .numeric),
    (["ex", "extendnumlet"], .extendNumberLetter), (["wsegspace"], .blank)]

end WordClass

/-- What the rules for sentences tell apart. -/
inductive SentenceClass where
  | carriageReturn
  | lineFeed
  | extend
  | separator
  | format
  | blank
  | lower
  | upper
  | letter
  | numeric
  | fullStop
  | goOn
  | terminal
  | close
  deriving Repr, DecidableEq

namespace SentenceClass

/-- The characters that go on with the one in front of them. -/
def extendSet : CharSet :=
  .unions [Trait.graphemeExtendSet, Category.spacingMark.set, .single 0x200D]

/-- Small letters, but not those of a script whose capitals stand by themselves. -/
def lowerSet : CharSet :=
  Trait.lowercaseSet.diff (extendSet.union (.ofTable "10D0-10FA 10FD-10FF"))

/-- Capital letters, but not those of that script. -/
def upperSet : CharSet :=
  (Trait.uppercaseSet.union Category.titlecaseLetter.set).diff (.ofTable "1C90-1CBA 1CBD-1CBF")

/-- Full stops. -/
def fullStopSet : CharSet := .ofTable "2E 2024 FE52 FF0E"

/-- The characters of a class. -/
def set : SentenceClass → CharSet
  | .carriageReturn => .single 0xD
  | .lineFeed => .single 0xA
  | .extend => extendSet
  | .separator => .ofTable "85 2028-2029"
  | .format =>
    Category.format.set.diff
      (.unions [.ofTable "200C-200D", WordClass.numberMarkSet, Trait.graphemeExtendSet])
  | .blank => Trait.whiteSpace.set.diff (.ofTable "A D 85 2028-2029")
  | .lower => lowerSet
  | .upper => upperSet
  | .letter =>
    (Trait.alphabetic.set.union (.single 0x5F3)).diff (.unions [lowerSet, upperSet, extendSet])
  | .numeric => WordClass.numericSet.union (.single 0x66C)
  | .fullStop => fullStopSet
  | .goOn =>
    .ofTable
      "2C-2D 3A-3B 37E 55D 60C-60D 7F8 1802 1808 2013-2014 3001 FE10-FE11 FE13-FE14 FE31-FE32
       FE50-FE51 FE54-FE55 FE58 FE63 FF0C-FF0D FF1A-FF1B FF64"
  | .terminal => Trait.sentenceTerminal.set.diff fullStopSet
  | .close =>
    .unions
      [Category.setOf [.openPunctuation, .closePunctuation, .initialPunctuation, .finalPunctuation],
        .ofTable "22 27 275B-2760 2E00-2E01 2E06-2E08 2E0B 1F676-1F678"]

/-- The names of the classes in small letters without spaces. -/
def names : List (List String × SentenceClass) :=
  [(["cr"], .carriageReturn), (["lf"], .lineFeed), (["ex", "extend"], .extend),
    (["se", "sep"], .separator), (["fo", "format"], .format), (["sp"], .blank),
    (["lo", "lower"], .lower), (["up", "upper"], .upper), (["le", "oletter"], .letter),
    (["nu", "numeric"], .numeric), (["at", "aterm"], .fullStop), (["sc", "scontinue"], .goOn),
    (["st", "sterm"], .terminal), (["cl", "close"], .close)]

end SentenceClass

end Folio.Text
