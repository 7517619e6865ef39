import Formwork.Pattern.CharSet
import Formwork.Unicode.Script

namespace Formwork.Pattern.Property

open Unicode Unicode.Property CharSet

def tables (rs : List Ranges) : CharSet := unionAll (rs.map .listed)

def assigned : CharSet := tables (categories.map (·.2))

def whiteSpace : CharSet := .listed (Shorthand.space.ranges .unicode)

def lowercase : CharSet := tables [categoryLl, otherLowercase]

def uppercase : CharSet := tables [categoryLu, otherUppercase]

def cased : CharSet := tables [categoryLl, otherLowercase, categoryLu, otherUppercase, categoryLt]

def alphabetic : CharSet := tables letterTables

def graphemeExtend : CharSet := tables [categoryMn, categoryMe, otherGraphemeExtend]

def graphemeBase : CharSet :=
  assigned.diff
    (.union (tables [categoryCc, categoryCf, categoryCo, categoryZl, categoryZp]) graphemeExtend)

def math : CharSet := tables [categorySm, otherMath]

def patternCharacters : CharSet := tables [patternSyntax, patternWhiteSpace]

def idStart : CharSet :=
  (tables
    [categoryLu, categoryLl, categoryLt, categoryLm, categoryLo, categoryNl, otherIdStart]).diff
    patternCharacters

def idContinue : CharSet :=
  .union idStart
    ((tables [categoryMn, categoryMc, categoryNd, categoryPc, otherIdContinue]).diff
      patternCharacters)

/-- Characters that lose their place in names when texts are brought to a normal form. -/
def unstable : CharSet :=
  .union (points [0x37a, 0xfe70, 0xfe72, 0xfe74, 0xfe76, 0xfe78, 0xfe7a, 0xfe7c, 0xfe7e])
    (unionAll [span 0x309b 0x309c, span 0xfc5e 0xfc63, span 0xfdfa 0xfdfb])

def xidStart : CharSet :=
  idStart.diff (unionAll [unstable, points [0xe33, 0xeb3], span 0xff9e 0xff9f])

def xidContinue : CharSet := idContinue.diff unstable

def defaultIgnorable : CharSet :=
  (tables [otherDefaultIgnorable, categoryCf, variationSelector]).diff
    (unionAll [whiteSpace, span 0xfff9 0xfffb, span 0x13430 0x13440,
      .listed prependedConcatenationMark])

def midLetter : CharSet := points [0x3a, 0xb7, 0x387, 0x55f, 0x5f4, 0x2027, 0xfe13, 0xfe55, 0xff1a]

def midNumLet : CharSet := points [0x2e, 0x2018, 0x2019, 0x2024, 0xfe52, 0xff07, 0xff0e]

def caseIgnorable : CharSet :=
  unionAll [tables [categoryMn, categoryMe, categoryCf, categoryLm, categorySk], midLetter,
    midNumLet, .char '\x27']

def caseMapped : CharSet := .listed changesWhenCasemapped

def changesWhenLowercased : CharSet := .inter caseMapped (.union uppercase (.listed categoryLt))

def changesWhenUppercased : CharSet := caseMapped.diff uppercase

def capitalless : CharSet := .union (span 0x10d0 0x10fa) (span 0x10fd 0x10ff)

def changesWhenTitlecased : CharSet :=
  .union ((CharSet.inter caseMapped (.union lowercase (points [0x345]))).diff capitalless)
    (points [0x1c4, 0x1c7, 0x1ca, 0x1f1])

def foldedLowercase : CharSet :=
  .union
    (points [0xb5, 0xdf, 0x149, 0x17f, 0x345, 0x3c2, 0x3d0, 0x3d1, 0x3d5, 0x3d6, 0x3f0, 0x3f1,
      0x3f5, 0x587, 0x1fb7, 0x1fc7, 0x1ff7])
    (unionAll [span 0x13f8 0x13fd, span 0x1c80 0x1c88, span 0x1e9a 0x1e9b, span 0x1f80 0x1f87,
      span 0x1f90 0x1f97, span 0x1fa0 0x1fa7, span 0x1fb2 0x1fb4, span 0x1fc2 0x1fc4,
      span 0x1ff2 0x1ff4, span 0xab70 0xabbf, span 0xfb00 0xfb06, span 0xfb13 0xfb17])

def changesWhenCasefolded : CharSet :=
  .union (changesWhenLowercased.diff (span 0x13a0 0x13f5)) foldedLowercase

def all : List (List String × CharSet) := [
  (["asciihexdigit", "ahex"], .listed asciiHexDigit), (["alphabetic", "alpha"], alphabetic),
  (["bidicontrol", "bidic"], .listed bidiControl),
  (["bidimirrored", "bidim"], .listed bidiMirrored),
  (["caseignorable", "ci"], caseIgnorable), (["cased"], cased),
  (["changeswhencasefolded", "cwcf"], changesWhenCasefolded),
  (["changeswhencasemapped", "cwcm"], caseMapped),
  (["changeswhenlowercased", "cwl"], changesWhenLowercased),
  (["changeswhentitlecased", "cwt"], changesWhenTitlecased),
  (["changeswhenuppercased", "cwu"], changesWhenUppercased), (["dash"], .listed dash),
  (["defaultignorablecodepoint", "di"], defaultIgnorable),
  (["deprecated", "dep"], .listed deprecated),
  (["diacritic", "dia"], .listed diacritic), (["emoji"], .listed emoji),
  (["emojicomponent", "ecomp"], .listed emojiComponent),
  (["emojimodifier", "emod"], .listed emojiModifier),
  (["emojimodifierbase", "ebase"], .listed emojiModifierBase),
  (["emojipresentation", "epres"], .listed emojiPresentation),
  (["extendedpictographic", "extpict"], .listed extendedPictographic),
  (["extender", "ext"], .listed extender),
  (["graphemebase", "grbase"], graphemeBase), (["graphemeextend", "grext"], graphemeExtend),
  (["graphemelink", "grlink"], .listed graphemeLink), (["hexdigit", "hex"], .listed hexDigit),
  (["hyphen"], .listed hyphen), (["idsbinaryoperator", "idsb"], .listed idsBinary),
  (["idstrinaryoperator", "idst"], .listed idsTrinary),
  (["idsunaryoperator", "idsu"], .listed idsUnary),
  (["idcompatmathstart"], .listed compatibleMathStart),
  (["idcompatmathcontinue"], .listed compatibleMathContinue),
  (["idcontinue", "idc"], idContinue), (["idstart", "ids"], idStart),
  (["ideographic", "ideo"], .listed ideographic),
  (["joincontrol", "joinc"], .listed joinControl),
  (["logicalorderexception", "loe"], .listed logicalOrderException),
  (["lowercase", "lower"], lowercase), (["math"], math),
  (["modifiercombiningmark", "mcm"], .listed modifierCombiningMark),
  (["noncharactercodepoint", "nchar"], .listed noncharacter),
  (["otheralphabetic", "oalpha"], .listed otherAlphabetic),
  (["otherdefaultignorablecodepoint", "odi"], .listed otherDefaultIgnorable),
  (["othergraphemeextend", "ogrext"], .listed otherGraphemeExtend),
  (["otheridcontinue", "oidc"], .listed otherIdContinue),
  (["otheridstart", "oids"], .listed otherIdStart),
  (["otherlowercase", "olower"], .listed otherLowercase),
  (["othermath", "omath"], .listed otherMath),
  (["otheruppercase", "oupper"], .listed otherUppercase),
  (["patternsyntax", "patsyn"], .listed patternSyntax),
  (["patternwhitespace", "patws"], .listed patternWhiteSpace),
  (["prependedconcatenationmark", "pcm"], .listed prependedConcatenationMark),
  (["quotationmark", "qmark"], .listed quotationMark), (["radical"], .listed radical),
  (["regionalindicator", "ri"], .listed regionalIndicator),
  (["sentenceterminal", "sterm"], .listed sentenceTerminal),
  (["softdotted", "sd"], .listed softDotted),
  (["terminalpunctuation", "term"], .listed terminalPunctuation),
  (["unifiedideograph", "uideo"], .listed unifiedIdeograph), (["uppercase", "upper"], uppercase),
  (["variationselector", "vs"], .listed variationSelector),
  (["whitespace", "wspace", "space"], whiteSpace),
  (["xidcontinue", "xidc"], xidContinue), (["xidstart", "xids"], xidStart)]

end Formwork.Pattern.Property
