import Formwork.Pattern.Property

namespace Formwork.Pattern

open Unicode Unicode.Property CharSet Property

def spans (ns : List (Nat × Nat)) : CharSet := unionAll (ns.map fun n ↦ span n.1 n.2)

def ofScript (code : String) : CharSet :=
  unionAll ((scripts.filter (·.code == code)).map fun s ↦ .listed s.ranges)

def lineBreak : CharSet := .char '\n'

def carriageReturn : CharSet := .char '\r'

def joiner : CharSet := points [0x200d]

def joiners : CharSet := span 0x200c 0x200d

def numberSigns : CharSet :=
  .union (span 0x600 0x605) (points [0x6dd, 0x890, 0x891, 0x8e2, 0x110bd, 0x110cd])

def unspacedLetters : CharSet := spans [
  (0xe01, 0xe3a), (0xe40, 0xe4e), (0xe81, 0xe82), (0xe84, 0xe84), (0xe86, 0xe8a), (0xe8c, 0xea3),
  (0xea5, 0xea5), (0xea7, 0xebd), (0xec0, 0xec4), (0xec6, 0xec6), (0xec8, 0xece), (0xedc, 0xedf),
  (0x1000, 0x103f), (0x1050, 0x108f), (0x109a, 0x109f), (0x1780, 0x17d3), (0x17d7, 0x17d7),
  (0x17dc, 0x17dd), (0x1950, 0x196d), (0x1970, 0x1974), (0x1980, 0x19ab), (0x19b0, 0x19c9),
  (0x19da, 0x19da), (0x19de, 0x19df), (0x1a20, 0x1a5e), (0x1a60, 0x1a7c), (0x1aa0, 0x1aad),
  (0xa9e0, 0xa9ef), (0xa9fa, 0xa9fe), (0xaa60, 0xaac2), (0xaadb, 0xaadf), (0x11700, 0x1171a),
  (0x1171d, 0x1172b), (0x1173a, 0x1173b), (0x1173f, 0x11746)]

namespace Grapheme

def extend : CharSet := .union graphemeExtend (.listed emojiModifier)

def control : CharSet :=
  (CharSet.union (tables [categoryZl, categoryZp, categoryCc, categoryCf])
    (.inter (.negate assigned) defaultIgnorable)).diff
    (unionAll [lineBreak, carriageReturn, joiners, .listed prependedConcatenationMark,
      graphemeExtend])

def prepended : CharSet := .union numberSigns (.union
  (points [0x70f, 0xd4e, 0x113d1, 0x1193f, 0x11941, 0x11a3a, 0x11d46, 0x11f02])
  (spans [(0x111c2, 0x111c3), (0x11a84, 0x11a89)]))

def spacingMark : CharSet :=
  (CharSet.union ((CharSet.listed categoryMc).diff extend) (points [0xe33, 0xeb3])).diff
    (.union (points [0x102b, 0x102c, 0x1038, 0x1083, 0x108f, 0x1a61, 0x1a63, 0x1a64,
      0xaa7b, 0xaa7d])
      (spans [(0x1062, 0x1064), (0x1067, 0x106d), (0x1087, 0x108c), (0x109a, 0x109c),
        (0x11720, 0x11721)]))

/-- The syllables of two letters: every 28th of the syllables. -/
def openSyllable : CharSet := points ((List.range 399).map (0xac00 + 28 * ·))

def classes : List (List String × CharSet) := [
  (["cr"], carriageReturn), (["lf"], lineBreak), (["control", "cn"], control),
  (["extend", "ex"], extend),
  (["zwj"], joiner), (["regionalindicator", "ri"], .listed regionalIndicator),
  (["prepend", "pp"], prepended),
  (["spacingmark", "sm"], spacingMark), (["l"], spans [(0x1100, 0x115f), (0xa960, 0xa97c)]),
  (["v"], spans [(0x1160, 0x11a7), (0xd7b0, 0xd7c6), (0x16d63, 0x16d63), (0x16d67, 0x16d6a)]),
  (["t"], spans [(0x11a8, 0x11ff), (0xd7cb, 0xd7fb)]), (["lv"], openSyllable),
  (["lvt"], (span 0xac00 0xd7a3).diff openSyllable)]

end Grapheme

namespace WordPart

def extend : CharSet := .union graphemeExtend (tables [categoryMc, emojiModifier])

def format : CharSet :=
  (CharSet.listed categoryCf).diff
    (unionAll [span 0x200b 0x200d, graphemeExtend, .listed prependedConcatenationMark])

def katakana : CharSet :=
  .union (ofScript "kana")
    (.union (span 0x3031 0x3035) (points [0x309b, 0x309c, 0x30a0, 0x30fc, 0xff70]))

def hebrewLetter : CharSet := .inter (ofScript "hebr") (.listed categoryLo)

def addedLetters : CharSet := spans [
  (0x2c2, 0x2c5), (0x2d2, 0x2d7), (0x2de, 0x2df), (0x2e5, 0x2eb), (0x2ed, 0x2ed), (0x2ef, 0x2ff),
  (0x55a, 0x55c), (0x55e, 0x55e), (0x58a, 0x58a), (0x5f3, 0x5f3), (0x70f, 0x70f), (0xa708, 0xa716),
  (0xa720, 0xa721), (0xa789, 0xa78a), (0xab5b, 0xab5b)]

def letter : CharSet :=
  (CharSet.union alphabetic addedLetters).diff
    (unionAll [.listed ideographic, katakana, unspacedLetters, ofScript "hira", extend,
      hebrewLetter])

def numeric : CharSet := unionAll [.listed categoryNd, points [0x66b], numberSigns]

def midNumber : CharSet :=
  .union
    (points [0x2c, 0x3b, 0x37e, 0x589, 0x66c, 0x7f8, 0x2044, 0xfe10, 0xfe14, 0xfe50, 0xfe54, 0xff0c,
      0xff1b])
    (span 0x60c 0x60d)

def blank : CharSet :=
  .union (points [0x20, 0x1680, 0x205f, 0x3000]) (spans [(0x2000, 0x2006), (0x2008, 0x200a)])

def classes : List (List String × CharSet) := [
  (["cr"], carriageReturn), (["lf"], lineBreak),
  (["newline", "nl"], .union (points [0x85]) (spans [(0xb, 0xc), (0x2028, 0x2029)])),
  (["extend"], extend),
  (["zwj"], joiner), (["format", "fo"], format), (["katakana", "ka"], katakana),
  (["hebrewletter", "hl"], hebrewLetter),
  (["aletter", "le"], letter), (["midletter", "ml"], midLetter), (["midnum", "mn"], midNumber),
  (["midnumlet", "mb"], midNumLet), (["numeric", "nu"], numeric),
  (["extendnumlet", "ex"], .union (.listed categoryPc) (points [0x202f])),
  (["doublequote", "dq"], .char '"'),
  (["singlequote", "sq"], .char '\x27'), (["regionalindicator", "ri"], .listed regionalIndicator),
  (["wsegspace"], blank)]

end WordPart

namespace SentencePart

def extend : CharSet := unionAll [graphemeExtend, .listed categoryMc, joiner]

def format : CharSet :=
  (CharSet.listed categoryCf).diff (unionAll [joiners, graphemeExtend, numberSigns])

def lower : CharSet := lowercase.diff (.union graphemeExtend capitalless)

def upper : CharSet :=
  (CharSet.union (.listed categoryLt) uppercase).diff
    (.union (span 0x1c90 0x1cba) (span 0x1cbd 0x1cbf))

def letter : CharSet :=
  (CharSet.union alphabetic (points [0x5f3])).diff (unionAll [lower, upper, extend])

def fullStop : CharSet := points [0x2e, 0x2024, 0xfe52, 0xff0e]

def closing : CharSet := .union (tables [categoryPs, categoryPe, categoryPi, categoryPf])
  (.union (points [0x22, 0x27, 0x2e0b])
    (spans [(0x275b, 0x2760), (0x2e00, 0x2e01), (0x2e06, 0x2e08), (0x1f676, 0x1f678)]))

def continuing : CharSet := .union
  (points [0x37e, 0x55d, 0x7f8, 0x1802, 0x1808, 0x3001, 0xfe58, 0xfe63, 0xff64])
  (spans [(0x2c, 0x2d), (0x3a, 0x3b), (0x60c, 0x60d), (0x2013, 0x2014), (0xfe10, 0xfe11),
    (0xfe13, 0xfe14), (0xfe31, 0xfe32), (0xfe50, 0xfe51), (0xfe54, 0xfe55), (0xff0c, 0xff0d),
    (0xff1a, 0xff1b)])

def separator : CharSet := points [0x85, 0x2028, 0x2029]

def classes : List (List String × CharSet) := [
  (["cr"], carriageReturn), (["lf"], lineBreak), (["extend", "ex"], extend),
  (["sep", "se"], separator),
  (["format", "fo"], format),
  (["sp"], whiteSpace.diff (unionAll [lineBreak, carriageReturn, separator])),
  (["lower", "lo"], lower), (["upper", "up"], upper), (["oletter", "le"], letter),
  (["numeric", "nu"], unionAll [.listed categoryNd, points [0x66b, 0x66c], numberSigns]),
  (["aterm", "at"], fullStop), (["scontinue", "sc"], continuing),
  (["sterm", "st"], (CharSet.listed sentenceTerminal).diff fullStop), (["close", "cl"], closing)]

end SentencePart

end Formwork.Pattern
