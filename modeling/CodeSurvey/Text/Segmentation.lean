/-
The classes of characters by which a text is cut into visible characters, words and sentences.

Most classes follow from the categories and a list of exceptions. Each kind of class is a table from names, in lower
case and without underscores, to sets; characters of no class are not in it.
-/
import CodeSurvey.Text.Property
import CodeSurvey.Text.Script

namespace CodeSurvey.Text.Segmentation

/-- format characters that stand before numbers -/
def numberFormats : CharSet := .table ["600-605 6DD 890-891 8E2 110BD 110CD"]

/-- the characters of some scripts -/
def scriptsChars (names : List String) : CharSet := .unions (names.filterMap scriptChars?)

/-- Hangul syllables without a closing consonant -/
def openSyllables : CharSet :=
  .ofRanges ((List.range 399).map fun k => (0xAC00 + 28 * k, 0xAC00 + 28 * k))

/-- marks that take room of their own and combine with the character before them -/
def spacingMarks : CharSet :=
  .union (.table ["E33 EB3"]) (Category.spacingMarkChars.without (otherGraphemeExtend.union (.table [
    "102B-102C 1038 1062-1064 1067-106D 1083 1087-108C 108F 109A-109C 1A61 1A63-1A64 AA7B AA7D 11720-11721"])))

/-- marks and tones that extend the character before them -/
def wordExtend : CharSet :=
  (CharSet.unions [graphemeExtend, Category.spacingMarkChars, emojiModifiers]).without (.table ["200D"])

/-- format characters inside a word -/
def wordFormat : CharSet :=
  Category.formatChars.without (numberFormats.union (.table ["70F 200B-200D E0020-E007F"]))

/-- letters of the Hebrew script -/
def hebrewLetters : CharSet := (scriptsChars ["hebr"]).inter Category.otherLetterChars

/-- letters of words that blanks part -/
def wordLetters : CharSet :=
  .union
    (.table ["2C2-2C5 2D2-2D7 2DE-2DF 2E5-2EB 2ED 2EF-2FF 55A-55C 55E 58A 5F3 70F A708-A716 A720-A721 A789-A78A AB5B"])
    (alphabetic.without (.unions [ideographic, wordExtend, hebrewLetters, .table ["3031-3035 30FC FF70"],
      scriptsChars ["kana", "hira", "thai", "laoo", "khmr", "mymr", "tale", "talu", "lana", "tavt", "ahom"]]))

/-- lower-case letters of a sentence -/
def sentenceLower : CharSet := lowercase.without (graphemeExtend.union (.table ["10D0-10FA 10FD-10FF"]))

/-- upper-case letters of a sentence -/
def sentenceUpper : CharSet :=
  (uppercase.union Category.titlecaseLetterChars).without (.table ["1C90-1CBA 1CBD-1CBF"])

/-- letters of a sentence without case -/
def sentenceLetters : CharSet :=
  .union (.table ["5F3"])
    (alphabetic.without (.unions [sentenceLower, sentenceUpper, graphemeExtend, Category.spacingMarkChars]))

/-- classes for visible characters -/
def graphemes : List (List String × CharSet) := [
  (["cn", "control"],
    ((CharSet.union (defaultIgnorable.inter Category.unassigned)
      (Category.charsOf [.control, .format, .lineSeparator, .paragraphSeparator])).without
      (.unions [.table ["A D 200C-200D"], prependedMarks, otherGraphemeExtend]))),
  (["cr"], .table ["D"]),
  (["ex", "extend"], graphemeExtend.union emojiModifiers),
  (["l"], .table ["1100-115F A960-A97C"]),
  (["lf"], .table ["A"]),
  (["lv"], openSyllables),
  (["lvt"], (CharSet.table ["AC00-D7A3"]).without openSyllables),
  (["pp", "prepend"],
    prependedMarks.union (.table ["D4E 111C2-111C3 113D1 1193F 11941 11A3A 11A84-11A89 11D46 11F02"])),
  (["ri", "regionalindicator"], regionalIndicators),
  (["sm", "spacingmark"], spacingMarks),
  (["t"], .table ["11A8-11FF D7CB-D7FB"]),
  (["v"], .table ["1160-11A7 D7B0-D7C6 16D63 16D67-16D6A"]),
  (["zwj"], .table ["200D"])]

/-- classes for words -/
def words : List (List String × CharSet) := [
  (["le", "aletter"], wordLetters),
  (["cr"], .table ["D"]),
  (["dq", "doublequote"], .table ["22"]),
  (["extend"], wordExtend),
  (["ex", "extendnumlet"], .table ["5F 202F 203F-2040 2054 FE33-FE34 FE4D-FE4F FF3F"]),
  (["fo", "format"], wordFormat),
  (["hl", "hebrewletter"], hebrewLetters),
  (["ka", "katakana"], (scriptsChars ["kana"]).union (.table ["3031-3035 309B-309C 30A0 30FC FF70"])),
  (["lf"], .table ["A"]),
  (["ml", "midletter"], .table ["3A B7 387 55F 5F4 2027 FE13 FE55 FF1A"]),
  (["mn", "midnum"], .table ["2C 3B 37E 589 60C-60D 66C 7F8 2044 FE10 FE14 FE50 FE54 FF0C FF1B"]),
  (["mb", "midnumlet"], .table ["2E 2018-2019 2024 FE52 FF07 FF0E"]),
  (["nl", "newline"], .table ["B-C 85 2028-2029"]),
  (["nu", "numeric"], .unions [Category.decimalNumberChars, numberFormats, .table ["66B"]]),
  (["ri", "regionalindicator"], regionalIndicators),
  (["sq", "singlequote"], .table ["27"]),
  (["wsegspace"], .table ["20 1680 2000-2006 2008-200A 205F 3000"]),
  (["zwj"], .table ["200D"])]

/-- classes for sentences -/
def sentences : List (List String × CharSet) := [
  (["at", "aterm"], .table ["2E 2024 FE52 FF0E"]),
  (["cl", "close"],
    .union (.table ["22 27 275B-2760 2E00-2E01 2E06-2E08 2E0B 1F676-1F678"])
      (Category.charsOf [.openPunctuation, .closePunctuation, .initialPunctuation, .finalPunctuation])),
  (["cr"], .table ["D"]),
  (["ex", "extend"], .unions [graphemeExtend, Category.spacingMarkChars, .table ["200D"]]),
  (["fo", "format"], wordFormat.union (.table ["70F 200B"])),
  (["lf"], .table ["A"]),
  (["lo", "lower"], sentenceLower),
  (["nu", "numeric"], .unions [Category.decimalNumberChars, numberFormats, .table ["66B-66C"]]),
  (["le", "oletter"], sentenceLetters),
  (["sc", "scontinue"], .table [
    "2C-2D 3A 55D 60C-60D 7F8 1802 1808 2013-2014 3001 FE10-FE11 FE13 FE31-FE32 FE50-FE51 FE55 FE58 FE63 FF0C-FF0D",
    "FF1A FF64"]),
  (["st", "sterm"], sentenceTerminals.without (.table ["2E 2024 FE52 FF0E"])),
  (["se", "sep"], .table ["85 2028-2029"]),
  (["sp"], blanks.without (.table ["A D 85 2028-2029"])),
  (["up", "upper"], sentenceUpper)]

/-- the set of a class -/
def find? (classes : List (List String × CharSet)) (name : String) : Option CharSet :=
  (classes.find? fun c => c.1.contains name).map (·.2)

end CodeSurvey.Text.Segmentation
