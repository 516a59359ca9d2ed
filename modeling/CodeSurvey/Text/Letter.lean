/-
Classes of characters: blank, word character, alphanumeric, digit, upper and lower case.

Each class is decided on ASCII by a plain test and beyond ASCII by tables, so that a statement about ASCII text never
opens a table. The sets are those of Unicode 16; the tests for letters, numbers and case also know the characters that
Unicode 17 added, the tests for blanks, digits and word characters do not. Main statements: on ASCII, a word character
is a letter, a digit or `_` (`isWord_ascii`), and a blank is a space or one of tab to carriage return
(`isBlank_ascii`).
-/
import CodeSurvey.Text.Category

namespace CodeSurvey.Text

/-- alphabetic characters that are neither letters nor letter numbers -/
def otherAlphabetic : CharSet := .table [
  "345 5B0-5BD 5BF 5C1-5C2 5C4-5C5 5C7 610-61A 64B-657 659-65F 670 6D6-6DC 6E1-6E4 6E7-6E8 6ED 711 730-73F 7A6-7B0",
  "816-817 81B-823 825-827 829-82C 897 8D4-8DF 8E3-8E9 8F0-903 93A-93B 93E-94C 94E-94F 955-957 962-963 981-983",
  "9BE-9C4 9C7-9C8 9CB-9CC 9D7 9E2-9E3 A01-A03 A3E-A42 A47-A48 A4B-A4C A51 A70-A71 A75 A81-A83 ABE-AC5 AC7-AC9",
  "ACB-ACC AE2-AE3 AFA-AFC B01-B03 B3E-B44 B47-B48 B4B-B4C B56-B57 B62-B63 B82 BBE-BC2 BC6-BC8 BCA-BCC BD7 C00-C04",
  "C3E-C44 C46-C48 C4A-C4C C55-C56 C62-C63 C81-C83 CBE-CC4 CC6-CC8 CCA-CCC CD5-CD6 CE2-CE3 CF3 D00-D03 D3E-D44",
  "D46-D48 D4A-D4C D57 D62-D63 D81-D83 DCF-DD4 DD6 DD8-DDF DF2-DF3 E31 E34-E3A E4D EB1 EB4-EB9 EBB-EBC ECD F71-F83",
  "F8D-F97 F99-FBC 102B-1036 1038 103B-103E 1056-1059 105E-1060 1062-1064 1067-106D 1071-1074 1082-108D 108F",
  "109A-109D 1712-1713 1732-1733 1752-1753 1772-1773 17B6-17C8 1885-1886 18A9 1920-192B 1930-1938 1A17-1A1B",
  "1A55-1A5E 1A61-1A74 1ABF-1AC0 1ACC-1ACE 1B00-1B04 1B35-1B43 1B80-1B82 1BA1-1BA9 1BAC-1BAD 1BE7-1BF1 1C24-1C36",
  "1DE7-1DF4 24B6-24E9 2DE0-2DFF A674-A67B A69E-A69F A802 A80B A823-A827 A880-A881 A8B4-A8C3 A8C5 A8FF A926-A92A",
  "A947-A952 A980-A983 A9B4-A9BF A9E5 AA29-AA36 AA43 AA4C-AA4D AA7B-AA7D AAB0 AAB2-AAB4 AAB7-AAB8 AABE AAEB-AAEF",
  "AAF5 ABE3-ABEA FB1E 10376-1037A 10A01-10A03 10A05-10A06 10A0C-10A0F 10D24-10D27 10D69 10EAB-10EAC 10EFC",
  "11000-11002 11038-11045 11073-11074 11080-11082 110B0-110B8 110C2 11100-11102 11127-11132 11145-11146",
  "11180-11182 111B3-111BF 111CE-111CF 1122C-11234 11237 1123E 11241 112DF-112E8 11300-11303 1133E-11344",
  "11347-11348 1134B-1134C 11357 11362-11363 113B8-113C0 113C2 113C5 113C7-113CA 113CC-113CD 11435-11441",
  "11443-11445 114B0-114C1 115AF-115B5 115B8-115BE 115DC-115DD 11630-1163E 11640 116AB-116B5 1171D-1172A",
  "1182C-11838 11930-11935 11937-11938 1193B-1193C 11940 11942 119D1-119D7 119DA-119DF 119E4 11A01-11A0A",
  "11A35-11A39 11A3B-11A3E 11A51-11A5B 11A8A-11A97 11C2F-11C36 11C38-11C3E 11C92-11CA7 11CA9-11CB6 11D31-11D36",
  "11D3A 11D3C-11D3D 11D3F-11D41 11D43 11D47 11D8A-11D8E 11D90-11D91 11D93-11D96 11EF3-11EF6 11F00-11F01 11F03",
  "11F34-11F3A 11F3E-11F40 1611E-1612E 16F4F 16F51-16F87 16F8F-16F92 16FF0-16FF1 1BC9E 1E000-1E006 1E008-1E018",
  "1E01B-1E021 1E023-1E024 1E026-1E02A 1E08F 1E947 1F130-1F149 1F150-1F169 1F170-1F189"]

/-- upper-case characters that are not upper-case letters: Roman numerals and enclosed letters -/
def otherUppercase : CharSet := .table ["2160-216F 24B6-24CF 1F130-1F149 1F150-1F169 1F170-1F189"]

/-- lower-case characters that are not lower-case letters -/
def otherLowercase : CharSet := .table [
  "AA BA 2B0-2B8 2C0-2C1 2E0-2E4 345 37A 10FC 1D2C-1D6A 1D78 1D9B-1DBF 2071 207F 2090-209C 2170-217F 24D0-24E9",
  "2C7C-2C7D A69C-A69D A770 A7F2-A7F4 A7F8-A7F9 AB5C-AB5F AB69 10780 10783-10785 10787-107B0 107B2-107BA",
  "1E030-1E06D"]

/-- white space -/
def blanks : CharSet := .table ["9-D 20 85 A0 1680 2000-200A 2028-2029 202F 205F 3000"]

/-- the characters that join or part their neighbours -/
def joiners : CharSet := .table ["200C-200D"]

/-- upper-case characters -/
def uppercase : CharSet := Category.uppercaseLetterChars.union otherUppercase

/-- lower-case characters -/
def lowercase : CharSet := Category.lowercaseLetterChars.union otherLowercase

/-- alphabetic characters -/
def alphabetic : CharSet :=
  .unions [Category.charsOf (.letterNumber :: Category.letters), otherUppercase, otherLowercase, otherAlphabetic]

/-- characters of an identifier-like word: alphabetic ones, marks, decimal digits, connectors and joiners -/
def wordChars : CharSet :=
  .unions [alphabetic, Category.charsOf (.decimalNumber :: .connectorPunctuation :: Category.marks), joiners]

/-- upper-case letters of Unicode 17 -/
def recentUppercase : CharSet := .table ["A7CE A7D2 A7D4 16EA0-16EB8"]

/-- lower-case letters of Unicode 17 -/
def recentLowercase : CharSet := .table ["A7CF A7F1 16EBB-16ED3"]

/-- alphabetic characters of Unicode 17 -/
def recentAlphabetic : CharSet := .table [
  "88F C5C CDC A7CE-A7CF A7D2 A7D4 A7F1 10940-10959 10EC5-10EC7 10EFA-10EFB 11B60-11B67 11DB0-11DDB 16EA0-16EB8",
  "16EBB-16ED3 16FF2-16FF6 187F8-187FF 18D09-18D1E 18D80-18DF2 1E6C0-1E6DE 1E6E0-1E6F5 1E6FE-1E6FF 2B73A-2B73F",
  "2CEA2-2CEAD 323B0-33479"]

/-- numbers of Unicode 17 -/
def recentNumbers : CharSet := .table ["11DE0-11DE9 16FF4-16FF6"]

/-- case-ignorable characters of Unicode 17 -/
def recentIgnorable : CharSet := .table [
  "1ACF-1ADD 1AE0-1AEB A7F1 10EC5 10EFA-10EFB 11B60 11B62-11B64 11B66 11DD9 16FF2-16FF3 1E6E3 1E6E6 1E6EE-1E6EF",
  "1E6F5 1E6FF"]

def isAscii (c : Char) : Bool := c.toNat < 128

def isAsciiLower (c : Char) : Bool := 'a' ≤ c && c ≤ 'z'

def isAsciiUpper (c : Char) : Bool := 'A' ≤ c && c ≤ 'Z'

def isAsciiLetter (c : Char) : Bool := isAsciiLower c || isAsciiUpper c

def isAsciiDigit (c : Char) : Bool := '0' ≤ c && c ≤ '9'

def isAsciiAlphanumeric (c : Char) : Bool := isAsciiLetter c || isAsciiDigit c

/-- white space: the ASCII blanks tab to carriage return and space, and the wide ones -/
def isBlank (c : Char) : Bool :=
  if isAscii c then c == ' ' || ('\t' ≤ c && c ≤ '\r') else blanks.contains c

/-- decimal digit of any script -/
def isDigit (c : Char) : Bool :=
  if isAscii c then isAsciiDigit c else Category.decimalNumber.holds c

/-- letter, letter number or other alphabetic character of any script -/
def isAlphabetic (c : Char) : Bool :=
  if isAscii c then isAsciiLetter c else alphabetic.contains c || recentAlphabetic.contains c

/-- alphabetic character or number of any script -/
def isAlphanumeric (c : Char) : Bool :=
  if isAscii c then isAsciiAlphanumeric c
  else isAlphabetic c || Category.numbers.any (·.holds c) || recentNumbers.contains c

/-- character of an identifier-like word: alphabetic character, mark, decimal digit, connector or joiner -/
def isWord (c : Char) : Bool :=
  if isAscii c then isAsciiAlphanumeric c || c == '_' else wordChars.contains c

def isUppercase (c : Char) : Bool :=
  if isAscii c then isAsciiUpper c else uppercase.contains c || recentUppercase.contains c

def isLowercase (c : Char) : Bool :=
  if isAscii c then isAsciiLower c else lowercase.contains c || recentLowercase.contains c

theorem isWord_ascii {c : Char} (h : isAscii c = true) : isWord c = (isAsciiAlphanumeric c || c == '_') := by
  simp [isWord, h]

theorem isBlank_ascii {c : Char} (h : isAscii c = true) : isBlank c = (c == ' ' || ('\t' ≤ c && c ≤ '\r')) := by
  simp [isBlank, h]

end CodeSurvey.Text
