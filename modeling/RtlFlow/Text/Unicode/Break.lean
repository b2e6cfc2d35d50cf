import RtlFlow.Text.Unicode.Property

/-! # Boundaries in text

Text is cut into the units that a reader sees as one character, into words and into sentences by
the classes of its characters. A pattern may name these classes; each follows from the categories
and properties of characters but for a few listed ones. -/

namespace RtlFlow.Text.Unicode

/-- The characters that join the one before them in sentences and words. -/
def attachedChars : CharSet :=
  .unions [marks, asOfPatterns (ofItems otherGraphemeExtend), listed "joincontrol"]

/-! ### Characters as a reader sees them -/

/-- The characters that join the one before them. -/
def graphemeExtending : CharSet := graphemeExtendSet.union (listed "emojimodifier")

/-- The characters that stand by themselves and are not seen. -/
def graphemeControl : CharSet :=
  ((inCategories [.zl, .zp, .cc, .cf]).union ((ofCategory .cn).inter defaultIgnorableSet)).diff
    (.unions [ofItems ["A D 200D"], graphemeExtending, listed "prependedconcatenationmark"])

/-- The spacing marks that join the one before them. -/
def graphemeSpacing : CharSet :=
  (((ofCategory .mc).diff graphemeExtending).union (ofItems ["E33 EB3"])).diff (ofItems
    ["102B-102C 1038 1062-1064 1067-106D 1083 1087-108C 108F 109A-109C 1A61 1A63-1A64 AA7B AA7D",
     "11720-11721"])

/-- The syllables without a final consonant. -/
def openSyllables : CharSet :=
  .ofRanges ((List.range 399).map fun i => (0xAC00 + 28 * i, 0xAC00 + 28 * i))

/-- **The characters of a class of boundaries between characters**, by its name in the loose
form. -/
def ofGraphemeBreak? : String → Option CharSet
  | "cr" => some (.one '\r')
  | "lf" => some (.one '\n')
  | "control" | "cn" => some graphemeControl
  | "extend" | "ex" => some graphemeExtending
  | "prepend" | "pp" => some (ofItems
    ["600-605 6DD 70F 890-891 8E2 D4E 110BD 110CD 111C2-111C3 113D1 1193F 11941 11A84-11A89 11D46",
     "11F02"])
  | "spacingmark" | "sm" => some graphemeSpacing
  | "l" => some (ofItems ["1100-115F A960-A97C"])
  | "v" => some (ofItems ["1160-11A7 D7B0-D7C6 16D63 16D67-16D6A"])
  | "t" => some (ofItems ["11A8-11FF D7CB-D7FB"])
  | "lv" => some openSyllables
  | "lvt" => some ((CharSet.range 0xAC00 0xD7A3).diff openSyllables)
  | "regionalindicator" | "ri" => some (listed "regionalindicator")
  | "zwj" => some (.one '\u200D')
  | _ => none

/-! ### Sentences -/

/-- The points that may end a sentence. -/
def sentencePoints : CharSet := ofItems ["2E 2024 FE52 FF0E"]

/-- The signs that a number is written under. -/
def numberSigns : CharSet := (listed "prependedconcatenationmark").diff (.one '\u070F')

/-- The characters of numbers. -/
def sentenceNumeric : CharSet :=
  .unions [ofCategory .nd, numberSigns, ofItems ["66B-66C 19DA"]]

/-- The characters without a shape of their own. -/
def sentenceFormat : CharSet := (ofCategory .cf).diff (attachedChars.union numberSigns)

/-- The small letters. -/
def sentenceLower : CharSet :=
  lowercaseSet.diff (attachedChars.union (ofItems ["10D0-10FA 10FD-10FF"]))

/-- The capital letters. -/
def sentenceUpper : CharSet :=
  (uppercaseSet.union (ofCategory .lt)).diff (ofItems ["1C90-1CBA 1CBD-1CBF"])

/-- **The characters of a class of boundaries between sentences**, by its name in the loose
form. -/
def ofSentenceBreak? : String → Option CharSet
  | "aterm" | "at" => some sentencePoints
  | "close" | "cl" => some ((inCategories [.ps, .pe, .pi, .pf]).union (ofItems
    ["22 27 275B-2760 2E00-2E01 2E06-2E08 2E0B 1F676-1F678"]))
  | "cr" => some (.one '\r')
  | "extend" | "ex" => some attachedChars
  | "format" | "fo" => some sentenceFormat
  | "lf" => some (.one '\n')
  | "lower" | "lo" => some sentenceLower
  | "numeric" | "nu" => some sentenceNumeric
  | "oletter" | "le" =>
    some ((alphabeticSet.union (.one '\u05F3')).diff
      (.unions [sentenceLower, sentenceUpper, attachedChars]))
  | "scontinue" | "sc" => some (ofItems
    ["2C-2D 3A-3B 37E 55D 60C-60D 7F8 1802 1808 2013-2014 3001 FE10-FE11 FE13-FE14 FE31-FE32",
     "FE50-FE51 FE54-FE55 FE58 FE63 FF0C-FF0D FF1A-FF1B FF64"])
  | "sep" | "se" => some (ofItems ["85 2028-2029"])
  | "sp" => some (blankChars.diff (ofItems ["A D 85 2028-2029"]))
  | "sterm" | "st" => some ((listed "sentenceterminal").diff sentencePoints)
  | "upper" | "up" => some sentenceUpper
  | _ => none

/-! ### Words -/

/-- The Katakana letters and the marks that are used with them. -/
def wordKatakana : CharSet :=
  ((ofScript? "katakana").getD .nothing).union (ofItems ["3031-3035 309B-309C 30A0 30FC FF70"])

/-- The Hebrew letters. -/
def wordHebrew : CharSet := ((ofScript? "hebrew").getD .nothing).inter (ofCategory .lo)

/-- The characters of the scripts in which no blank stands between words, and the ideographs. -/
def wordUnbounded : CharSet :=
  .unions (listed "ideographic" ::
    ["hiragana", "thai", "lao", "myanmar", "khmer", "taile", "newtailue", "taitham", "taiviet",
      "ahom"].map fun name => (ofScript? name).getD .nothing)

/-- The letters and the signs that are used like letters. -/
def wordLetters : CharSet :=
  ((alphabeticSet.diff wordUnbounded).union (ofItems
    ["B8 2C2-2C5 2D2-2D7 2DE-2DF 2E5-2EB 2ED 2EF-2FF 55A-55C 55E 58A 5F3 70F A708-A716",
     "A720-A721 A789-A78A AB5B"])).diff (.unions [wordKatakana, wordHebrew, attachedChars])

/-- **The characters of a class of boundaries between words**, by its name in the loose form. -/
def ofWordBreak? : String → Option CharSet
  | "aletter" | "le" => some wordLetters
  | "cr" => some (.one '\r')
  | "doublequote" | "dq" => some (.one '"')
  | "extend" =>
    some ((attachedChars.diff (.one '\u200D')).union (listed "emojimodifier"))
  | "extendnumlet" | "ex" => some ((ofCategory .pc).union (.one '\u202F'))
  | "format" | "fo" => some (sentenceFormat.diff (ofItems ["70F 200B"]))
  | "hebrewletter" | "hl" => some wordHebrew
  | "katakana" | "ka" => some wordKatakana
  | "lf" => some (.one '\n')
  | "midletter" | "ml" => some (ofItems ["3A B7 387 55F 5F4 2027 FE13 FE55 FF1A"])
  | "midnum" | "mn" =>
    some (ofItems ["2C 3B 37E 589 60C-60D 66C 7F8 2044 FE50 FE54 FF0C FF1B"])
  | "midnumlet" | "mb" => some (ofItems ["2E 2018-2019 2024 FE52 FF07 FF0E"])
  | "newline" | "nl" => some (ofItems ["B-C 85 2028-2029"])
  | "numeric" | "nu" => some (sentenceNumeric.diff (.one '\u066C'))
  | "regionalindicator" | "ri" => some (listed "regionalindicator")
  | "singlequote" | "sq" => some (.one '\'')
  | "wsegspace" => some ((ofCategory .zs).diff (ofItems ["A0 2007 202F"]))
  | "zwj" => some (.one '\u200D')
  | _ => none

end RtlFlow.Text.Unicode
