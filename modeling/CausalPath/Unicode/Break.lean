import CausalPath.Unicode.Property
import CausalPath.Unicode.Script

/-!
# Boundaries in texts

The classes that the rules for boundaries between clusters, words and sentences tell apart. Each of
the three divisions puts a character into one class at most; what no class has is other. The classes
are made of categories, scripts and properties as the rules define them.
-/

namespace CausalPath

namespace Unicode

/-! ## § 1. Common parts -/

def openSyllables : CharSet := .ofText "AC00-D788/1C"

def numberSigns : CharSet := (table "prependedconcatenationmark").diff (.ofText "70F")

def extendingMarks : CharSet := graphemeExtend.union (inCategories ["Mc"])

/-- The characters without a look of their own that neither join nor extend. -/
def formats : CharSet :=
  (inCategories ["Cf"]).diff (.unions [table "joincontrol", numberSigns, graphemeExtend])

def wordDigits : CharSet := .unions [inCategories ["Nd"], numberSigns, .ofText "66B 19DA"]

/-! ## § 2. Clusters -/

/-- The class of a name in the division into clusters. -/
def clusterBreak? (name : String) : Option CharSet :=
  match name with
  | "cr" => some (.ofText "D")
  | "lf" => some (.ofText "A")
  | "cn" | "control" =>
    let ignorable := unassigned.inter defaultIgnorable
    let controls := (inCategories ["Zl", "Zp", "Cc", "Cf"]).union ignorable
    let others : List CharSet :=
      [.ofText "A D", table "prependedconcatenationmark", table "joincontrol", graphemeExtend]
    some (controls.diff (.unions others))
  | "ex" | "extend" => some (graphemeExtend.union (table "emojimodifier"))
  | "zwj" => some (.ofText "200D")
  | "pp" | "prepend" =>
    some ((table "prependedconcatenationmark").union
      (.ofText "D4E 111C2-111C3 113D1 1193F 11941 11A3A 11A84-11A89 11D46 11F02"))
  | "ri" | "regionalindicator" => some (table "regionalindicator")
  | "sm" | "spacingmark" =>
    some (((inCategories ["Mc"]).union (.ofText "E33 EB3")).diff (graphemeExtend.union
      (.ofText "102B-102C 1038 1062-1064 1067-106D 1083 1087-108C 108F 109A-109C 1A61 1A63-1A64
        AA7B AA7D 11720-11721")))
  | "l" => some (.ofText "1100-115F A960-A97C")
  | "v" => some (.ofText "1160-11A7 D7B0-D7C6 16D63 16D67-16D6A")
  | "t" => some (.ofText "11A8-11FF D7CB-D7FB")
  | "lv" => some openSyllables
  | "lvt" => some ((CharSet.ofText "AC00-D7A3").diff openSyllables)
  | _ => none

/-! ## § 3. Words -/

def hebrewLetters : CharSet := (inScript "Hebr").inter (inCategories ["Lo"])

def katakana : CharSet := (inScript "Kana").union (.ofText "3031-3035 309B-309C 30A0 30FC FF70")

def wordExtend : CharSet := extendingMarks.union (table "emojimodifier")

/-- The characters of scripts that write words without blanks between them. -/
def unspaced : CharSet :=
  .unions (["Thai", "Laoo", "Khmr", "Mymr", "Tale", "Talu", "Lana", "Tavt", "Ahom"].map inScript)

def wordLetters : CharSet :=
  let others : List CharSet :=
    [table "ideographic", katakana, inScript "Hira", wordExtend, hebrewLetters, unspaced]
  (alphabetic.diff (.unions others)).union
    (.ofText "2C2-2C5 2D2-2D7 2DE-2DF 2E5-2EB 2ED 2EF-2FF 55A-55C 55E 58A 5F3 70F A708-A716
      A720-A721 A789-A78A AB5B")

/-- The class of a name in the division into words. -/
def wordBreak? (name : String) : Option CharSet :=
  match name with
  | "cr" => some (.ofText "D")
  | "lf" => some (.ofText "A")
  | "nl" | "newline" => some (.ofText "B-C 85 2028-2029")
  | "extend" => some wordExtend
  | "zwj" => some (.ofText "200D")
  | "fo" | "format" => some (formats.diff (.ofText "70F 200B"))
  | "ka" | "katakana" => some katakana
  | "hl" | "hebrewletter" => some hebrewLetters
  | "le" | "aletter" => some wordLetters
  | "sq" | "singlequote" => some (.ofText "27")
  | "dq" | "doublequote" => some (.ofText "22")
  | "mb" | "midnumlet" => some midNumberLetters
  | "ml" | "midletter" => some midLetters
  | "mn" | "midnum" =>
    some (.ofText "2C 3B 37E 589 60C-60D 66C 7F8 2044 FE50 FE54 FF0C FF1B")
  | "nu" | "numeric" => some wordDigits
  | "ex" | "extendnumlet" => some ((inCategories ["Pc"]).union (.ofText "202F"))
  | "ri" | "regionalindicator" => some (table "regionalindicator")
  | "wsegspace" => some ((inCategories ["Zs"]).diff (.ofText "A0 2007 202F"))
  | _ => none

/-! ## § 4. Sentences -/

def sentenceLower : CharSet := lowercase.diff (graphemeExtend.union (.ofText "10D0-10FA 10FD-10FF"))

def sentenceUpper : CharSet :=
  (inCategories ["Lt"]).union (uppercase.diff (.ofText "1C90-1CBA 1CBD-1CBF"))

def sentenceExtend : CharSet := extendingMarks.union (table "joincontrol")

def pointTerminals : CharSet := .ofText "2E 2024 FE52 FF0E"

/-- The class of a name in the division into sentences. -/
def sentenceBreak? (name : String) : Option CharSet :=
  match name with
  | "cr" => some (.ofText "D")
  | "lf" => some (.ofText "A")
  | "ex" | "extend" => some sentenceExtend
  | "se" | "sep" => some (.ofText "85 2028-2029")
  | "fo" | "format" => some formats
  | "sp" => some (whiteSpace.diff (.ofText "A D 85 2028-2029"))
  | "lo" | "lower" => some sentenceLower
  | "up" | "upper" => some sentenceUpper
  | "le" | "oletter" =>
    some ((alphabetic.union (.ofText "5F3")).diff
      (.unions [sentenceLower, sentenceUpper, sentenceExtend]))
  | "nu" | "numeric" => some (wordDigits.union (.ofText "66C"))
  | "at" | "aterm" => some pointTerminals
  | "sc" | "scontinue" =>
    some (.ofText "2C-2D 3A-3B 37E 55D 60C-60D 7F8 1802 1808 2013-2014 3001 FE10-FE11 FE13-FE14
      FE31-FE32 FE50-FE51 FE54-FE55 FE58 FE63 FF0C-FF0D FF1A-FF1B FF64")
  | "st" | "sterm" => some ((table "sentenceterminal").diff pointTerminals)
  | "cl" | "close" =>
    some ((inCategories ["Ps", "Pe", "Pi", "Pf"]).union
      (.ofText "22 27 275B-2760 2E00-2E01 2E06-2E08 2E0B 1F676-1F678"))
  | _ => none

end Unicode

end CausalPath
