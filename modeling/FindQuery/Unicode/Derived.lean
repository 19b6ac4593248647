import FindQuery.Unicode.Category
import FindQuery.Unicode.Folding
import FindQuery.Unicode.Listed

namespace FindQuery.Unicode

inductive Derived where
  | alphabetic
  | caseIgnorable
  | cased
  | changesWhenCasefolded
  | changesWhenCasemapped
  | changesWhenLowercased
  | changesWhenTitlecased
  | changesWhenUppercased
  | defaultIgnorable
  | graphemeBase
  | graphemeExtend
  | idContinue
  | idStart
  | lowercase
  | math
  | uppercase
  | whiteSpace
  | xidContinue
  | xidStart
  deriving DecidableEq, Repr

def lowercase : CodeSet := Category.lowercaseLetter.codeSet.union Listed.otherLowercase.codeSet

def uppercase : CodeSet := Category.uppercaseLetter.codeSet.union Listed.otherUppercase.codeSet

def cased : CodeSet := .unionAll [lowercase, uppercase, Category.titlecaseLetter.codeSet]

def alphabetic : CodeSet :=
  .unionAll [Category.unionOf (.letterNumber :: Category.letters), Listed.otherAlphabetic.codeSet,
    Listed.otherLowercase.codeSet, Listed.otherUppercase.codeSet]

def graphemeExtend : CodeSet :=
  (Category.unionOf [.nonspacingMark, .enclosingMark]).union Listed.otherGraphemeExtend.codeSet

def whiteSpace : CodeSet := .ofHex ["9-D 20 85 A0 1680 2000-200A 2028-2029 202F 205F 3000"]

def patternReserved : CodeSet :=
  Listed.patternSyntax.codeSet.union Listed.patternWhiteSpace.codeSet

def idStart : CodeSet :=
  ((Category.unionOf (.letterNumber :: Category.letters)).union Listed.otherIdStart.codeSet).diff
    patternReserved

def idContinue : CodeSet :=
  (CodeSet.unionAll [idStart, Listed.otherIdContinue.codeSet, Category.unionOf
    [.nonspacingMark, .spacingMark, .decimalNumber, .connectorPunctuation]]).diff patternReserved

/-- Letters whose compatibility form starts with a character that starts no identifier. -/
def unstableStarts : CodeSet :=
  .ofHex ["37A E33 EB3 309B-309C FC5E-FC63 FDFA-FDFB FE70 FE72 FE74 FE76 FE78 FE7A FE7C FE7E FF9E-FF9F"]

def foldable : CodeSet := .ofPoints orbits.flatten

def expandingLetters : CodeSet :=
  .ofHex ["149 1F0 587 1E96-1E9A 1F50 1F52 1F54 1F56 1FB2 1FB4 1FB6-1FB7 1FC2 1FC4 1FC6-1FC7 1FD2",
    "1FD6-1FD7 1FE2 1FE4 1FE6-1FE7 1FF2 1FF4 1FF6-1FF7 FB00-FB04 FB13-FB17"]

def changesWhenLowercased : CodeSet :=
  ((uppercase.union Category.titlecaseLetter.codeSet).inter foldable).union (.single 0x130)

def changesWhenUppercased : CodeSet :=
  CodeSet.unionAll [(lowercase.union Category.titlecaseLetter.codeSet).inter foldable,
    expandingLetters, .single 0x131]

def ownTitlecase : CodeSet :=
  .ofHex ["1C5 1C8 1CB 1F2 10D0-10FA 10FD-10FF 1F88-1F8F 1F98-1F9F 1FA8-1FAF 1FBC 1FCC 1FFC"]

def changesWhenTitlecased : CodeSet :=
  (changesWhenUppercased.union (.ofHex ["1C4 1C7 1CA 1F1"])).diff ownTitlecase

def foldedSmallLetters : CodeSet :=
  .ofHex ["B5 DF 149 17F 345 3C2 3D0-3D1 3D5-3D6 3F0-3F1 3F5 587 13F8-13FD 1C80-1C88 1E9A-1E9B",
    "1F80-1F87 1F90-1F97 1FA0-1FA7 1FB2-1FB4 1FB7 1FC2-1FC4 1FC7 1FF2-1FF4 1FF7 AB70-ABBF FB00-FB06",
    "FB13-FB17"]

def changesWhenCasefolded : CodeSet :=
  (changesWhenLowercased.diff (.range 0x13A0 0x13F5)).union foldedSmallLetters

def defaultIgnorable : CodeSet :=
  (CodeSet.unionAll [Listed.otherDefaultIgnorable.codeSet, Category.format.codeSet,
      Listed.variationSelector.codeSet]).diff
    (.unionAll [whiteSpace, .range 0xFFF9 0xFFFB, .range 0x13430 0x1343F,
      Listed.prependedConcatenationMark.codeSet])

/-- Separators, control characters and code points without a meaning of their own. -/
def nongraphic : CodeSet :=
  (CodeSet.unionAll [surrogates, Category.unionOf
    [.control, .format, .privateUse, .lineSeparator, .paragraphSeparator]]).union unassigned

def Derived.codeSet : Derived → CodeSet
  | .alphabetic => Unicode.alphabetic
  | .caseIgnorable =>
    (Category.unionOf [.nonspacingMark, .enclosingMark, .format, .modifierLetter, .modifierSymbol]).union
      (.ofHex ["27 2E 3A B7 387 55F 5F4 2018-2019 2024 2027 FE13 FE52 FE55 FF07 FF0E FF1A"])
  | .cased => Unicode.cased
  | .changesWhenCasefolded => Unicode.changesWhenCasefolded
  | .changesWhenCasemapped =>
    .unionAll [Unicode.changesWhenLowercased, Unicode.changesWhenUppercased, Unicode.changesWhenTitlecased]
  | .changesWhenLowercased => Unicode.changesWhenLowercased
  | .changesWhenTitlecased => Unicode.changesWhenTitlecased
  | .changesWhenUppercased => Unicode.changesWhenUppercased
  | .defaultIgnorable => Unicode.defaultIgnorable
  | .graphemeBase => (nongraphic.union Unicode.graphemeExtend).complement
  | .graphemeExtend => Unicode.graphemeExtend
  | .idContinue => Unicode.idContinue
  | .idStart => Unicode.idStart
  | .lowercase => Unicode.lowercase
  | .math => Category.mathSymbol.codeSet.union Listed.otherMath.codeSet
  | .uppercase => Unicode.uppercase
  | .whiteSpace => Unicode.whiteSpace
  | .xidContinue => Unicode.idContinue.diff (unstableStarts.diff (.ofHex ["E33 EB3 FF9E-FF9F"]))
  | .xidStart => Unicode.idStart.diff unstableStarts

end FindQuery.Unicode
