import FindQuery.Unicode.Derived
import FindQuery.Unicode.Script

namespace FindQuery.Unicode

def scriptSet (codes : List String) : CodeSet :=
  .unionAll ((Script.all.filter fun script => codes.any (script.names.contains ·)).map Script.codeSet)

inductive GraphemeBreak where
  | carriageReturn
  | control
  | extend
  | leadingJamo
  | lineFeed
  | leadVowelSyllable
  | leadVowelTailSyllable
  | prepend
  | regionalIndicator
  | spacingMark
  | trailingJamo
  | vowelJamo
  | joiner
  deriving DecidableEq, Repr

/-- The syllables without a final consonant: every twenty-eighth of the block. -/
def openSyllables : CodeSet := .ofPoints ((List.range 399).map (0xAC00 + 28 * ·))

def graphemeExtender : CodeSet := graphemeExtend.union Listed.emojiModifier.codeSet

def GraphemeBreak.codeSet : GraphemeBreak → CodeSet
  | .carriageReturn => .single 0xD
  | .control =>
    (CodeSet.unionAll [Category.unionOf [.lineSeparator, .paragraphSeparator, .control, .format],
        unassigned.inter defaultIgnorable]).diff
      (.unionAll [graphemeExtender, .ofHex ["A D 200C-200D"], Listed.prependedConcatenationMark.codeSet])
  | .extend => graphemeExtender
  | .leadingJamo => .ofHex ["1100-115F A960-A97C"]
  | .lineFeed => .single 0xA
  | .leadVowelSyllable => openSyllables
  | .leadVowelTailSyllable => (CodeSet.range 0xAC00 0xD7A3).diff openSyllables
  | .prepend =>
    Listed.prependedConcatenationMark.codeSet.union
      (.ofHex ["D4E 111C2-111C3 113D1 1193F 11941 11A3A 11A84-11A89 11D46 11F02"])
  | .regionalIndicator => Listed.regionalIndicator.codeSet
  | .spacingMark =>
    ((Category.spacingMark.codeSet.diff graphemeExtender).union (.ofHex ["E33 EB3"])).diff
      (.ofHex ["102B-102C 1038 1062-1064 1067-106D 1083 1087-108C 108F 109A-109C 1A61 1A63-1A64 AA7B",
        "AA7D 11720-11721"])
  | .trailingJamo => .ofHex ["11A8-11FF D7CB-D7FB"]
  | .vowelJamo => .ofHex ["1160-11A7 D7B0-D7C6 16D63 16D67-16D6A"]
  | .joiner => .single 0x200D

def GraphemeBreak.names : GraphemeBreak → List String
  | .carriageReturn => ["CR"]
  | .control => ["CN", "Control"]
  | .extend => ["EX", "Extend"]
  | .leadingJamo => ["L"]
  | .lineFeed => ["LF"]
  | .leadVowelSyllable => ["LV"]
  | .leadVowelTailSyllable => ["LVT"]
  | .prepend => ["PP", "Prepend"]
  | .regionalIndicator => ["RI", "Regional_Indicator"]
  | .spacingMark => ["SM", "SpacingMark"]
  | .trailingJamo => ["T"]
  | .vowelJamo => ["V"]
  | .joiner => ["ZWJ"]

def GraphemeBreak.all : List GraphemeBreak :=
  [.carriageReturn, .control, .extend, .leadingJamo, .lineFeed, .leadVowelSyllable,
   .leadVowelTailSyllable, .prepend, .regionalIndicator, .spacingMark, .trailingJamo, .vowelJamo, .joiner]

inductive WordBreak where
  | carriageReturn
  | doubleQuote
  | letter
  | extendNumLet
  | extend
  | format
  | hebrewLetter
  | katakana
  | lineFeed
  | midNumLet
  | midLetter
  | midNum
  | newline
  | numeric
  | regionalIndicator
  | singleQuote
  | segmentSpace
  | joiner
  deriving DecidableEq, Repr

def digits : CodeSet := Category.decimalNumber.codeSet.union (.single 0x66B)

def markExtender : CodeSet := graphemeExtend.union Category.spacingMark.codeSet

def katakana : CodeSet :=
  (scriptSet ["Kana"]).union (.ofHex ["3031-3035 309B-309C 30A0 30FC FF70"])

def hebrewLetters : CodeSet := (scriptSet ["Hebr"]).inter Category.otherLetter.codeSet

def unspacedScripts : CodeSet :=
  scriptSet ["Ahom", "Khmr", "Lana", "Laoo", "Mymr", "Tale", "Talu", "Tavt", "Thai", "Hira"]

def wordLetters : CodeSet :=
  (alphabetic.union (.ofHex ["2C2-2C5 2D2-2D7 2DE-2DF 2E5-2EB 2ED 2EF-2FF 55A-55C 55E 58A 5F3 70F",
      "A708-A716 A720-A721 A789-A78A AB5B"])).diff
    (.unionAll [Listed.ideographic.codeSet, katakana, unspacedScripts, markExtender,
      Listed.emojiModifier.codeSet, hebrewLetters])

def WordBreak.codeSet : WordBreak → CodeSet
  | .carriageReturn => .single 0xD
  | .doubleQuote => .single 0x22
  | .letter => wordLetters
  | .extendNumLet => Category.connectorPunctuation.codeSet.union (.single 0x202F)
  | .extend => (markExtender.union Listed.emojiModifier.codeSet).diff (.single 0x200D)
  | .format =>
    Category.format.codeSet.diff (.unionAll [.range 0x200B 0x200D, markExtender,
      Listed.prependedConcatenationMark.codeSet])
  | .hebrewLetter => hebrewLetters
  | .katakana => Unicode.katakana
  | .lineFeed => .single 0xA
  | .midNumLet => .ofHex ["2E 2018-2019 2024 FE52 FF07 FF0E"]
  | .midLetter => .ofHex ["3A B7 387 55F 5F4 2027 FE13 FE55 FF1A"]
  | .midNum => .ofHex ["2C 3B 37E 589 60C-60D 66C 7F8 2044 FE10 FE14 FE50 FE54 FF0C FF1B"]
  | .newline => .ofHex ["B-C 85 2028-2029"]
  | .numeric => (digits.union Listed.prependedConcatenationMark.codeSet).diff (.single 0x70F)
  | .regionalIndicator => Listed.regionalIndicator.codeSet
  | .singleQuote => .single 0x27
  | .segmentSpace => .ofHex ["20 1680 2000-2006 2008-200A 205F 3000"]
  | .joiner => .single 0x200D

def WordBreak.names : WordBreak → List String
  | .carriageReturn => ["CR"]
  | .doubleQuote => ["DQ", "Double_Quote"]
  | .letter => ["LE", "ALetter"]
  | .extendNumLet => ["EX", "ExtendNumLet"]
  | .extend => ["Extend"]
  | .format => ["FO", "Format"]
  | .hebrewLetter => ["HL", "Hebrew_Letter"]
  | .katakana => ["KA", "Katakana"]
  | .lineFeed => ["LF"]
  | .midNumLet => ["MB", "MidNumLet"]
  | .midLetter => ["ML", "MidLetter"]
  | .midNum => ["MN", "MidNum"]
  | .newline => ["NL", "Newline"]
  | .numeric => ["NU", "Numeric"]
  | .regionalIndicator => ["RI", "Regional_Indicator"]
  | .singleQuote => ["SQ", "Single_Quote"]
  | .segmentSpace => ["WSegSpace"]
  | .joiner => ["ZWJ"]

def WordBreak.all : List WordBreak :=
  [.carriageReturn, .doubleQuote, .letter, .extendNumLet, .extend, .format, .hebrewLetter, .katakana,
   .lineFeed, .midNumLet, .midLetter, .midNum, .newline, .numeric, .regionalIndicator, .singleQuote,
   .segmentSpace, .joiner]

inductive SentenceBreak where
  | ambiguousTerminator
  | close
  | carriageReturn
  | extend
  | format
  | letter
  | lineFeed
  | lower
  | numeric
  | sentenceContinue
  | separator
  | space
  | terminator
  | upper
  deriving DecidableEq, Repr

def ambiguousTerminators : CodeSet := .ofHex ["2E 2024 FE52 FF0E"]

def sentenceTerminators : CodeSet := Listed.sentenceTerminal.codeSet.diff ambiguousTerminators

def sentenceExtender : CodeSet := markExtender.union (.single 0x200D)

def sentenceLower : CodeSet :=
  lowercase.diff (graphemeExtend.union (.ofHex ["10D0-10FA 10FD-10FF"]))

def sentenceUpper : CodeSet :=
  (uppercase.union Category.titlecaseLetter.codeSet).diff (.ofHex ["1C90-1CBA 1CBD-1CBF"])

def SentenceBreak.codeSet : SentenceBreak → CodeSet
  | .ambiguousTerminator => ambiguousTerminators
  | .close =>
    (CodeSet.unionAll [Category.unionOf
        [.openPunctuation, .closePunctuation, .initialPunctuation, .finalPunctuation],
      .ofHex ["22 27 275B-2760 2E00-2E01 2E06-2E08 2E0B 1F676-1F678"]]).diff sentenceTerminators
  | .carriageReturn => .single 0xD
  | .extend => sentenceExtender
  | .format => Category.format.codeSet.diff ((CodeSet.range 0x200C 0x200D).union sentenceExtender)
  | .letter =>
    (alphabetic.union (.single 0x5F3)).diff
      (.unionAll [sentenceLower, sentenceUpper, sentenceExtender])
  | .lineFeed => .single 0xA
  | .lower => sentenceLower
  | .numeric => digits.union (.single 0x66C)
  | .sentenceContinue =>
    .ofHex ["2C-2D 3A-3B 37E 55D 60C-60D 7F8 1802 1808 2013-2014 3001 FE10-FE11 FE13-FE14 FE31-FE32",
      "FE50-FE51 FE54-FE55 FE58 FE63 FF0C-FF0D FF1A-FF1B FF64"]
  | .separator => .ofHex ["85 2028-2029"]
  | .space => whiteSpace.diff (.ofHex ["A D 85 2028-2029"])
  | .terminator => sentenceTerminators
  | .upper => sentenceUpper

def SentenceBreak.names : SentenceBreak → List String
  | .ambiguousTerminator => ["AT", "ATerm"]
  | .close => ["CL", "Close"]
  | .carriageReturn => ["CR"]
  | .extend => ["EX", "Extend"]
  | .format => ["FO", "Format"]
  | .letter => ["LE", "OLetter"]
  | .lineFeed => ["LF"]
  | .lower => ["LO", "Lower"]
  | .numeric => ["NU", "Numeric"]
  | .sentenceContinue => ["SC", "SContinue"]
  | .separator => ["SE", "Sep"]
  | .space => ["SP", "Sp"]
  | .terminator => ["ST", "STerm"]
  | .upper => ["UP", "Upper"]

def SentenceBreak.all : List SentenceBreak :=
  [.ambiguousTerminator, .close, .carriageReturn, .extend, .format, .letter, .lineFeed, .lower, .numeric,
   .sentenceContinue, .separator, .space, .terminator, .upper]

end FindQuery.Unicode
