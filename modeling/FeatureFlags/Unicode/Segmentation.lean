import FeatureFlags.Unicode.Property
import FeatureFlags.Unicode.Script

/-!
The classes by which texts are cut into characters as they are seen, into words
and into sentences.
-/

namespace FeatureFlags.Unicode

def graphemeBreakExtend : CharSet := graphemeExtend.union (tabulated "emod")

/-- Signs that a break of characters does not precede. -/
def spacingMark : CharSet :=
  ((((categories ["mc"]).diff graphemeBreakExtend).union (.ofTable "E33 EB3")).diff <| .ofTable
    "102B-102C 1038 1062-1064 1067-106D 1083 1087-108C 108F 109A-109C 1A61 1A63-1A64 AA7B AA7D
    11720-11721")

/-- Signs that a break of characters does not follow. -/
def prepended : CharSet := .ofTable
  "600-605 6DD 70F 890-891 8E2 D4E 110BD 110CD 111C2-111C3 113D1 1193F 11941 11A3A 11A84-11A89
  11D46 11F02"

/-- Signs that stand for themselves. -/
def graphemeControl : CharSet :=
  ((categories ["cc", "cf", "zl", "zp"]).union ((tabulated "di").inter unassigned)).diff <| .ofTable
    "A D 600-605 6DD 70F 890-891 8E2 200C-200D 110BD 110CD E0020-E007F"

/-- Syllables of two letters: the first of each row of 28. -/
def openSyllables : CharSet :=
  ⟨(List.range 399).map fun row => (0xAC00 + 28 * row, 0xAC00 + 28 * row)⟩

/-- All syllables. -/
def syllables : CharSet := .range 0xAC00 0xD7A3

/-- The classes for characters as they are seen. -/
def graphemeBreak? (name : String) : Option CharSet :=
  match name with
  | "cr" => some (.singleton 0xD)
  | "lf" => some (.singleton 0xA)
  | "cn" | "control" => some graphemeControl
  | "ex" | "extend" => some graphemeBreakExtend
  | "zwj" => some (.singleton 0x200D)
  | "ri" | "regionalindicator" => some (tabulated "ri")
  | "pp" | "prepend" => some prepended
  | "sm" | "spacingmark" => some spacingMark
  | "l" => some (.ofTable "1100-115F A960-A97C")
  | "v" => some (.ofTable "1160-11A7 D7B0-D7C6 16D63 16D67-16D6A")
  | "t" => some (.ofTable "11A8-11FF D7CB-D7FB")
  | "lv" => some openSyllables
  | "lvt" => some (syllables.diff openSyllables)
  | _ => none

def wordExtend : CharSet := .unions [graphemeExtend, categories ["mc"], tabulated "emod"]

def hebrewLetter : CharSet := .ofTable
  "5D0-5EA 5EF-5F2 FB1D FB1F-FB28 FB2A-FB36 FB38-FB3C FB3E FB40-FB41 FB43-FB44 FB46-FB4F"

/-- Letters of scripts that put no blanks between words. -/
def unspacedLetters : CharSet := .ofTable
  "E01-E30 E32-E33 E40-E46 E81-E82 E84 E86-E8A E8C-EA3 EA5 EA7-EB0 EB2-EB3 EBD EC0-EC4 EC6
  EDC-EDF 1000-102A 103F 1050-1055 105A-105D 1061 1065-1066 106E-1070 1075-1081 108E 1780-17B3
  17D7 17DC 1950-196D 1970-1974 1980-19AB 19B0-19C9 1A20-1A54 1AA7 3031-3035 30FC A9E0-A9E4
  A9E6-A9EF A9FA-A9FE AA60-AA76 AA7A AA7E-AAAF AAB1 AAB5-AAB6 AAB9-AABD AAC0 AAC2 AADB-AADD FF70
  11700-1171A 11740-11746"

/-- Signs that count as letters within words. -/
def letterLikeSigns : CharSet := .ofTable
  "2C2-2C5 2D2-2D7 2DE-2DF 2E5-2EB 2ED 2EF-2FF 55A-55C 55E 58A 5F3 A708-A716 A720-A721 A789-A78A
  AB5B"

def katakana : CharSet :=
  (script? "kana").getD .empty |>.union (.ofTable "3031-3035 309B-309C 30A0 30FC FF70")

def wordLetter : CharSet :=
  (alphabetic.diff <| .unions [tabulated "ideo", (script? "kana").getD .empty,
    (script? "hira").getD .empty, hebrewLetter, wordExtend, unspacedLetters]).union letterLikeSigns

/-- The classes for words. -/
def wordBreak? (name : String) : Option CharSet :=
  match name with
  | "cr" => some (.singleton 0xD)
  | "lf" => some (.singleton 0xA)
  | "nl" | "newline" => some (.ofTable "B-C 85 2028-2029")
  | "extend" => some wordExtend
  | "zwj" => some (.singleton 0x200D)
  | "ri" | "regionalindicator" => some (tabulated "ri")
  | "fo" | "format" => some ((categories ["cf"]).diff (.ofTable "200B-200D E0020-E007F"))
  | "ka" | "katakana" => some katakana
  | "hl" | "hebrewletter" => some hebrewLetter
  | "le" | "aletter" => some wordLetter
  | "sq" | "singlequote" => some (.singleton 0x27)
  | "dq" | "doublequote" => some (.singleton 0x22)
  | "mb" | "midnumlet" => some (.ofTable "2E 2018-2019 2024 FE52 FF07 FF0E")
  | "ml" | "midletter" => some (.ofTable "3A B7 387 55F 5F4 2027 FE13 FE55 FF1A")
  | "mn" | "midnum" => some (.ofTable
      "2C 3B 37E 589 60C-60D 66C 7F8 2044 FE10 FE14 FE50 FE54 FF0C FF1B")
  | "nu" | "numeric" => some (digits.union (.singleton 0x66B))
  | "ex" | "extendnumlet" => some (.ofTable "5F 202F 203F-2040 2054 FE33-FE34 FE4D-FE4F FF3F")
  | "wsegspace" => some (.ofTable "20 1680 2000-2006 2008-200A 205F 3000")
  | _ => none

def sentenceExtend : CharSet :=
  .unions [graphemeExtend, categories ["mc"], .singleton 0x200D]

/-- Small letters, except for those of a script that has capitals in titles
only. -/
def sentenceLower : CharSet :=
  ((lowercase.diff graphemeExtend).diff (.ofTable "10D0-10FA 10FD-10FF")).union (.singleton 0x295)

def sentenceUpper : CharSet :=
  (uppercase.union (categories ["lt"])).diff (.ofTable "1C90-1CBA 1CBD-1CBF")

def otherLetter : CharSet :=
  (((alphabetic.diff sentenceLower).diff sentenceUpper).diff sentenceExtend).union
    (.singleton 0x5F3)

def closing : CharSet :=
  ((categories ["ps", "pe", "pi", "pf"]).union (tabulated "qmark")).diff (.ofTable "FF02 FF07")
    |>.union (.ofTable "275B-2760 2E00-2E01 2E06-2E08 2E0B 1F676-1F678")

/-- The classes for sentences. -/
def sentenceBreak? (name : String) : Option CharSet :=
  match name with
  | "cr" => some (.singleton 0xD)
  | "lf" => some (.singleton 0xA)
  | "ex" | "extend" => some sentenceExtend
  | "se" | "sep" => some (.ofTable "85 2028-2029")
  | "fo" | "format" => some ((categories ["cf"]).diff (.ofTable "200C-200D E0020-E007F"))
  | "sp" => some (whiteSpace.diff (.ofTable "A D 85 2028-2029"))
  | "lo" | "lower" => some sentenceLower
  | "up" | "upper" => some sentenceUpper
  | "le" | "oletter" => some otherLetter
  | "nu" | "numeric" => some (digits.union (.ofTable "66B-66C"))
  | "at" | "aterm" => some (.ofTable "2E 2024 FE52 FF0E")
  | "sc" | "scontinue" => some (.ofTable
      "2C-2D 3A 55D 60C-60D 7F8 1802 1808 2013-2014 3001 FE10-FE11 FE13 FE31-FE32 FE50-FE51
      FE55 FE58 FE63 FF0C-FF0D FF1A FF64")
  | "st" | "sterm" => some ((tabulated "sterm").diff (.ofTable
      "2E 17D4-17D5 2024 2CF9-2CFB FE12 FE15-FE16 FE52 FF0E"))
  | "cl" | "close" => some closing
  | _ => none

end FeatureFlags.Unicode
