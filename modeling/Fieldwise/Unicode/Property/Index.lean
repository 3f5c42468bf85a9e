import Fieldwise.Unicode.Property.Contributory
import Fieldwise.Unicode.Property.Identifiers
import Fieldwise.Unicode.Property.Letters
import Fieldwise.Unicode.Property.Signs

/-!
# Yes-or-no properties by name

The properties that a character has or has not, each with its names.
-/

namespace Fieldwise.Unicode.Property

/-- A property with its names and its members. -/
structure Entry where
  names : List String
  members : RangeSet

/-- Every property. -/
def entries : List Entry :=
  [⟨["ASCII_Hex_Digit", "AHex"], asciiHexDigit⟩,
    ⟨["Alphabetic", "Alpha"], alphabetic⟩,
    ⟨["Bidi_Control", "Bidi_C"], bidiControl⟩,
    ⟨["Bidi_Mirrored", "Bidi_M"], bidiMirrored⟩,
    ⟨["Case_Ignorable", "CI"], caseIgnorable⟩,
    ⟨["Cased"], cased⟩,
    ⟨["Changes_When_Casefolded", "CWCF"], changesWhenCasefolded⟩,
    ⟨["Changes_When_Casemapped", "CWCM"], changesWhenCasemapped⟩,
    ⟨["Changes_When_Lowercased", "CWL"], changesWhenLowercased⟩,
    ⟨["Changes_When_Titlecased", "CWT"], changesWhenTitlecased⟩,
    ⟨["Changes_When_Uppercased", "CWU"], changesWhenUppercased⟩,
    ⟨["Dash"], dash⟩,
    ⟨["Default_Ignorable_Code_Point", "DI"], defaultIgnorableCodePoint⟩,
    ⟨["Deprecated", "Dep"], deprecated⟩,
    ⟨["Diacritic", "Dia"], diacritic⟩,
    ⟨["Emoji"], emoji⟩,
    ⟨["Emoji_Component", "EComp"], emojiComponent⟩,
    ⟨["Emoji_Modifier", "EMod"], emojiModifier⟩,
    ⟨["Emoji_Modifier_Base", "EBase"], emojiModifierBase⟩,
    ⟨["Emoji_Presentation", "EPres"], emojiPresentation⟩,
    ⟨["Extended_Pictographic", "ExtPict"], extendedPictographic⟩,
    ⟨["Extender", "Ext"], extender⟩,
    ⟨["Grapheme_Base", "Gr_Base"], graphemeBase⟩,
    ⟨["Grapheme_Extend", "Gr_Ext"], graphemeExtend⟩,
    ⟨["Grapheme_Link", "Gr_Link"], graphemeLink⟩,
    ⟨["Hex_Digit", "Hex"], hexDigit⟩,
    ⟨["Hyphen"], hyphen⟩,
    ⟨["IDS_Binary_Operator", "IDSB"], idsBinaryOperator⟩,
    ⟨["IDS_Trinary_Operator", "IDST"], idsTrinaryOperator⟩,
    ⟨["IDS_Unary_Operator", "IDSU"], idsUnaryOperator⟩,
    ⟨["ID_Compat_Math_Continue"], idCompatMathContinue⟩,
    ⟨["ID_Compat_Math_Start"], idCompatMathStart⟩,
    ⟨["ID_Continue", "IDC"], idContinue⟩,
    ⟨["ID_Start", "IDS"], idStart⟩,
    ⟨["Ideographic", "Ideo"], ideographic⟩,
    ⟨["Join_Control", "Join_C"], joinControl⟩,
    ⟨["Logical_Order_Exception", "LOE"], logicalOrderException⟩,
    ⟨["Lowercase", "Lower"], lowercase⟩,
    ⟨["Math"], math⟩,
    ⟨["Modifier_Combining_Mark", "MCM"], modifierCombiningMark⟩,
    ⟨["Noncharacter_Code_Point", "NChar"], noncharacterCodePoint⟩,
    ⟨["Other_Alphabetic", "OAlpha"], otherAlphabetic⟩,
    ⟨["Other_Default_Ignorable_Code_Point", "ODI"], otherDefaultIgnorableCodePoint⟩,
    ⟨["Other_Grapheme_Extend", "OGr_Ext"], otherGraphemeExtend⟩,
    ⟨["Other_ID_Continue", "OIDC"], otherIDContinue⟩,
    ⟨["Other_ID_Start", "OIDS"], otherIDStart⟩,
    ⟨["Other_Lowercase", "OLower"], otherLowercase⟩,
    ⟨["Other_Math", "OMath"], otherMath⟩,
    ⟨["Other_Uppercase", "OUpper"], otherUppercase⟩,
    ⟨["Pattern_Syntax", "Pat_Syn"], patternSyntax⟩,
    ⟨["Pattern_White_Space", "Pat_WS"], patternWhiteSpace⟩,
    ⟨["Prepended_Concatenation_Mark", "PCM"], prependedConcatenationMark⟩,
    ⟨["Quotation_Mark", "QMark"], quotationMark⟩,
    ⟨["Radical"], radical⟩,
    ⟨["Regional_Indicator", "RI"], regionalIndicator⟩,
    ⟨["Sentence_Terminal", "STerm"], sentenceTerminal⟩,
    ⟨["Soft_Dotted", "SD"], softDotted⟩,
    ⟨["Terminal_Punctuation", "Term"], terminalPunctuation⟩,
    ⟨["Unified_Ideograph", "UIdeo"], unifiedIdeograph⟩,
    ⟨["Uppercase", "Upper"], uppercase⟩,
    ⟨["Variation_Selector", "VS"], variationSelector⟩,
    ⟨["White_Space", "WSpace", "Space"], whiteSpace⟩,
    ⟨["XID_Continue", "XIDC"], xidContinue⟩,
    ⟨["XID_Start", "XIDS"], xidStart⟩]

/-- The names of the properties of the standard for which there is no set: names, numbers,
mappings, and those that only other algorithms use. -/
def otherNames : List String :=
  ["Bidi_Class", "bc", "Bidi_Mirroring_Glyph", "bmg", "Bidi_Paired_Bracket", "bpb",
    "Bidi_Paired_Bracket_Type", "bpt", "Block", "blk", "Canonical_Combining_Class", "ccc",
    "Case_Folding", "cf", "Changes_When_NFKC_Casefolded", "cwkcf", "Composition_Exclusion", "ce",
    "Decomposition_Mapping", "dm", "Decomposition_Type", "dt", "East_Asian_Width", "ea",
    "Equivalent_Unified_Ideograph", "equideo", "Expands_On_NFC", "xonfc", "Expands_On_NFD", "xonfd",
    "Expands_On_NFKC", "xonfkc", "Expands_On_NFKD", "xonfkd", "FC_NFKC_Closure", "fcnfkc",
    "Full_Composition_Exclusion", "compex", "Hangul_Syllable_Type", "hst", "Indic_Conjunct_Break",
    "incb", "Indic_Positional_Category", "inpc", "Indic_Syllabic_Category", "insc", "ISO_Comment",
    "isc", "Jamo_Short_Name", "jsn", "Joining_Group", "jg", "Joining_Type", "jt",
    "kAccountingNumeric", "cjkaccountingnumeric", "kCompatibilityVariant",
    "cjkcompatibilityvariant", "kEH_Cat", "kEH_Desc", "kEH_HG", "kEH_IFAO", "kEH_JSesh",
    "kEH_NoMirror", "kEH_NoRotate", "kIICore", "cjkiicore", "kIRG_GSource", "cjkirggsource",
    "kIRG_HSource", "cjkirghsource", "kIRG_JSource", "cjkirgjsource", "kIRG_KPSource",
    "cjkirgkpsource", "kIRG_KSource", "cjkirgksource", "kIRG_MSource", "cjkirgmsource",
    "kIRG_SSource", "cjkirgssource", "kIRG_TSource", "cjkirgtsource", "kIRG_UKSource",
    "cjkirguksource", "kIRG_USource", "cjkirgusource", "kIRG_VSource", "cjkirgvsource",
    "kOtherNumeric", "cjkothernumeric", "kPrimaryNumeric", "cjkprimarynumeric", "kRSUnicode",
    "cjkrsunicode", "Unicode_Radical_Stroke", "urs", "Line_Break", "lb", "Lowercase_Mapping", "lc",
    "Name", "na", "Name_Alias", "NFC_Quick_Check", "nfcqc", "NFD_Quick_Check", "nfdqc",
    "NFKC_Casefold", "nfkccf", "NFKC_Quick_Check", "nfkcqc", "NFKC_Simple_Casefold", "nfkcscf",
    "NFKD_Quick_Check", "nfkdqc", "Numeric_Type", "nt", "Numeric_Value", "nv",
    "Simple_Case_Folding", "scf", "sfc", "Simple_Lowercase_Mapping", "slc",
    "Simple_Titlecase_Mapping", "stc", "Simple_Uppercase_Mapping", "suc", "Titlecase_Mapping", "tc",
    "Unicode_1_Name", "na1", "Uppercase_Mapping", "uc", "Vertical_Orientation", "vo"]

end Fieldwise.Unicode.Property
