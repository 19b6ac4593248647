import FindQuery.Unicode.Age
import FindQuery.Unicode.Break

namespace FindQuery.Unicode

def foldNameChar (c : Char) : Option Char :=
  if c = ' ' ∨ c = '_' ∨ c = '-' then none
  else if c.toNat < 0x80 then some c.toLower
  else none

/-- The form in which two spellings of one name agree. The name `isc` keeps its `is`, for else it would
read as the category `c`. -/
def looseName (name : List Char) : List Char :=
  match name with
  | i :: s :: rest =>
    if (i = 'i' ∨ i = 'I') ∧ (s = 's' ∨ s = 'S') then
      let stripped := rest.filterMap foldNameChar
      if stripped = ['c'] then ['i', 's', 'c'] else stripped
    else name.filterMap foldNameChar
  | _ => name.filterMap foldNameChar

def isSpelling (name : List Char) (spelling : String) : Bool := looseName spelling.toList == name

def Listed.names : Listed → List String
  | .asciiHexDigit => ["AHex", "ASCII_Hex_Digit"]
  | .bidiControl => ["Bidi_C", "Bidi_Control"]
  | .dash => ["Dash"]
  | .deprecated => ["Dep", "Deprecated"]
  | .diacritic => ["Dia", "Diacritic"]
  | .emoji => ["Emoji"]
  | .emojiComponent => ["EComp", "Emoji_Component"]
  | .emojiModifier => ["EMod", "Emoji_Modifier"]
  | .emojiModifierBase => ["EBase", "Emoji_Modifier_Base"]
  | .emojiPresentation => ["EPres", "Emoji_Presentation"]
  | .extendedPictographic => ["ExtPict", "Extended_Pictographic"]
  | .extender => ["Ext", "Extender"]
  | .graphemeLink => ["Gr_Link", "Grapheme_Link"]
  | .hexDigit => ["Hex", "Hex_Digit"]
  | .hyphen => ["Hyphen"]
  | .idCompatMathContinue => ["ID_Compat_Math_Continue"]
  | .idCompatMathStart => ["ID_Compat_Math_Start"]
  | .idsBinaryOperator => ["IDSB", "IDS_Binary_Operator"]
  | .idsTrinaryOperator => ["IDST", "IDS_Trinary_Operator"]
  | .idsUnaryOperator => ["IDSU", "IDS_Unary_Operator"]
  | .ideographic => ["Ideo", "Ideographic"]
  | .joinControl => ["Join_C", "Join_Control"]
  | .logicalOrderException => ["LOE", "Logical_Order_Exception"]
  | .modifierCombiningMark => ["MCM", "Modifier_Combining_Mark"]
  | .noncharacter => ["NChar", "Noncharacter_Code_Point"]
  | .otherAlphabetic => ["OAlpha", "Other_Alphabetic"]
  | .otherDefaultIgnorable => ["ODI", "Other_Default_Ignorable_Code_Point"]
  | .otherGraphemeExtend => ["OGr_Ext", "Other_Grapheme_Extend"]
  | .otherIdContinue => ["OIDC", "Other_ID_Continue"]
  | .otherIdStart => ["OIDS", "Other_ID_Start"]
  | .otherLowercase => ["OLower", "Other_Lowercase"]
  | .otherMath => ["OMath", "Other_Math"]
  | .otherUppercase => ["OUpper", "Other_Uppercase"]
  | .patternSyntax => ["Pat_Syn", "Pattern_Syntax"]
  | .patternWhiteSpace => ["Pat_WS", "Pattern_White_Space"]
  | .prependedConcatenationMark => ["PCM", "Prepended_Concatenation_Mark"]
  | .quotationMark => ["QMark", "Quotation_Mark"]
  | .radical => ["Radical"]
  | .regionalIndicator => ["RI", "Regional_Indicator"]
  | .sentenceTerminal => ["STerm", "Sentence_Terminal"]
  | .softDotted => ["SD", "Soft_Dotted"]
  | .terminalPunctuation => ["Term", "Terminal_Punctuation"]
  | .unifiedIdeograph => ["UIdeo", "Unified_Ideograph"]
  | .variationSelector => ["VS", "Variation_Selector"]

def Listed.all : List Listed :=
  [.asciiHexDigit, .bidiControl, .dash, .deprecated, .diacritic, .emoji, .emojiComponent, .emojiModifier,
   .emojiModifierBase, .emojiPresentation, .extendedPictographic, .extender, .graphemeLink, .hexDigit,
   .hyphen, .idCompatMathContinue, .idCompatMathStart, .idsBinaryOperator, .idsTrinaryOperator,
   .idsUnaryOperator, .ideographic, .joinControl, .logicalOrderException, .modifierCombiningMark,
   .noncharacter, .otherAlphabetic, .otherDefaultIgnorable, .otherGraphemeExtend, .otherIdContinue,
   .otherIdStart, .otherLowercase, .otherMath, .otherUppercase, .patternSyntax, .patternWhiteSpace,
   .prependedConcatenationMark, .quotationMark, .radical, .regionalIndicator, .sentenceTerminal,
   .softDotted, .terminalPunctuation, .unifiedIdeograph, .variationSelector]

def Derived.names : Derived → List String
  | .alphabetic => ["Alpha", "Alphabetic"]
  | .caseIgnorable => ["CI", "Case_Ignorable"]
  | .cased => ["Cased"]
  | .changesWhenCasefolded => ["CWCF", "Changes_When_Casefolded"]
  | .changesWhenCasemapped => ["CWCM", "Changes_When_Casemapped"]
  | .changesWhenLowercased => ["CWL", "Changes_When_Lowercased"]
  | .changesWhenTitlecased => ["CWT", "Changes_When_Titlecased"]
  | .changesWhenUppercased => ["CWU", "Changes_When_Uppercased"]
  | .defaultIgnorable => ["DI", "Default_Ignorable_Code_Point"]
  | .graphemeBase => ["Gr_Base", "Grapheme_Base"]
  | .graphemeExtend => ["Gr_Ext", "Grapheme_Extend"]
  | .idContinue => ["IDC", "ID_Continue"]
  | .idStart => ["IDS", "ID_Start"]
  | .lowercase => ["Lower", "Lowercase"]
  | .math => ["Math"]
  | .uppercase => ["Upper", "Uppercase"]
  | .whiteSpace => ["WSpace", "White_Space", "space"]
  | .xidContinue => ["XIDC", "XID_Continue"]
  | .xidStart => ["XIDS", "XID_Start"]

def Derived.all : List Derived :=
  [.alphabetic, .caseIgnorable, .cased, .changesWhenCasefolded, .changesWhenCasemapped,
   .changesWhenLowercased, .changesWhenTitlecased, .changesWhenUppercased, .defaultIgnorable,
   .graphemeBase, .graphemeExtend, .idContinue, .idStart, .lowercase, .math, .uppercase, .whiteSpace,
   .xidContinue, .xidStart]

/-- Values of the general category: single categories, unions of them, and three sets beside them. -/
inductive CategoryGroup where
  | single (category : Category)
  | union (categories : List Category)
  | unassigned
  | otherGroup
  | any
  | assigned
  | ascii

def CategoryGroup.codeSet : CategoryGroup → CodeSet
  | .single category => category.codeSet
  | .union categories => Category.unionOf categories
  | .unassigned => Unicode.unassigned
  | .otherGroup => (Category.unionOf [.control, .format, .privateUse]).union Unicode.unassigned
  | .any => .full
  | .assigned => Unicode.unassigned.complement
  | .ascii => .range 0 0x7F

def CategoryGroup.all : List (List String × CategoryGroup) :=
  [(["Any"], .any), (["Assigned"], .assigned), (["ASCII"], .ascii),
   (["C", "Other"], .otherGroup),
   (["Cc", "Control", "cntrl"], .single .control),
   (["Cf", "Format"], .single .format),
   (["Cn", "Unassigned"], .unassigned),
   (["Co", "Private_Use"], .single .privateUse),
   (["L", "Letter"], .union Category.letters),
   (["LC", "Cased_Letter"], .union [.uppercaseLetter, .lowercaseLetter, .titlecaseLetter]),
   (["Ll", "Lowercase_Letter"], .single .lowercaseLetter),
   (["Lm", "Modifier_Letter"], .single .modifierLetter),
   (["Lo", "Other_Letter"], .single .otherLetter),
   (["Lt", "Titlecase_Letter"], .single .titlecaseLetter),
   (["Lu", "Uppercase_Letter"], .single .uppercaseLetter),
   (["M", "Mark", "Combining_Mark"], .union Category.marks),
   (["Mc", "Spacing_Mark"], .single .spacingMark),
   (["Me", "Enclosing_Mark"], .single .enclosingMark),
   (["Mn", "Nonspacing_Mark"], .single .nonspacingMark),
   (["N", "Number"], .union Category.numbers),
   (["Nd", "Decimal_Number", "digit"], .single .decimalNumber),
   (["Nl", "Letter_Number"], .single .letterNumber),
   (["No", "Other_Number"], .single .otherNumber),
   (["P", "Punctuation", "punct"], .union Category.punctuation),
   (["Pc", "Connector_Punctuation"], .single .connectorPunctuation),
   (["Pd", "Dash_Punctuation"], .single .dashPunctuation),
   (["Pe", "Close_Punctuation"], .single .closePunctuation),
   (["Pf", "Final_Punctuation"], .single .finalPunctuation),
   (["Pi", "Initial_Punctuation"], .single .initialPunctuation),
   (["Po", "Other_Punctuation"], .single .otherPunctuation),
   (["Ps", "Open_Punctuation"], .single .openPunctuation),
   (["S", "Symbol"], .union Category.symbols),
   (["Sc", "Currency_Symbol"], .single .currencySymbol),
   (["Sk", "Modifier_Symbol"], .single .modifierSymbol),
   (["Sm", "Math_Symbol"], .single .mathSymbol),
   (["So", "Other_Symbol"], .single .otherSymbol),
   (["Z", "Separator"], .union Category.separators),
   (["Zl", "Line_Separator"], .single .lineSeparator),
   (["Zp", "Paragraph_Separator"], .single .paragraphSeparator),
   (["Zs", "Space_Separator"], .single .spaceSeparator)]

def findNamed? {α : Type} (names : α → List String) (entries : List α) (name : List Char) : Option α :=
  entries.find? fun entry => (names entry).any (isSpelling name)

def categoryNamed? (name : List Char) : Option CodeSet :=
  (findNamed? Prod.fst CategoryGroup.all name).map (·.2.codeSet)

def scriptNamed? (name : List Char) : Option Script := findNamed? Script.names Script.all name

def propertyNamed? (name : List Char) : Option CodeSet :=
  ((findNamed? Listed.names Listed.all name).map Listed.codeSet) <|>
    ((findNamed? Derived.names Derived.all name).map Derived.codeSet)

def setNamed? (name : List Char) : Option CodeSet :=
  let name := looseName name
  propertyNamed? name <|> categoryNamed? name <|> ((scriptNamed? name).map Script.codeSet)

def versionNames (version : String) : List String := [version, "V" ++ version.replace "." "_"]

def ageNamed? (name : List Char) : Option CodeSet :=
  ((additions.map Prod.fst).find? fun version => (versionNames version).any (isSpelling name)).bind
    assignedBy?

inductive ValuedProperty where
  | generalCategory
  | script
  | scriptExtensions
  | age
  | graphemeClusterBreak
  | wordBreak
  | sentenceBreak
  deriving DecidableEq, Repr

def ValuedProperty.names : ValuedProperty → List String
  | .generalCategory => ["gc", "General_Category"]
  | .script => ["sc", "Script"]
  | .scriptExtensions => ["scx", "Script_Extensions"]
  | .age => ["age"]
  | .graphemeClusterBreak => ["GCB", "Grapheme_Cluster_Break"]
  | .wordBreak => ["WB", "Word_Break"]
  | .sentenceBreak => ["SB", "Sentence_Break"]

def ValuedProperty.all : List ValuedProperty :=
  [.generalCategory, .script, .scriptExtensions, .age, .graphemeClusterBreak, .wordBreak, .sentenceBreak]

def ValuedProperty.set? (property : ValuedProperty) (value : List Char) : Option CodeSet :=
  match property with
  | .generalCategory => categoryNamed? value
  | .script => (scriptNamed? value).map Script.codeSet
  | .scriptExtensions => (scriptNamed? value).map Script.extended
  | .age => ageNamed? value
  | .graphemeClusterBreak =>
    (findNamed? GraphemeBreak.names GraphemeBreak.all value).map GraphemeBreak.codeSet
  | .wordBreak => (findNamed? WordBreak.names WordBreak.all value).map WordBreak.codeSet
  | .sentenceBreak => (findNamed? SentenceBreak.names SentenceBreak.all value).map SentenceBreak.codeSet

def setValued? (property value : List Char) : Option CodeSet :=
  (findNamed? ValuedProperty.names ValuedProperty.all (looseName property)).bind
    (·.set? (looseName value))

end FindQuery.Unicode
