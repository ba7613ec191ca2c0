import Highlighter.Unicode.Property
import Highlighter.Unicode.Script

/-!
# Break properties

The Unicode standard divides text into user-perceived characters, words and
sentences by three properties with a handful of values each. A value is given
by a formula of categories, scripts and binary properties and a short list of
exceptions, and this module follows these formulas.

Characters that play no part in a division have the value `other`, which is not
among the tables: it cannot be asked for.

## Main definitions

* `Break.cluster?`: the characters with a value of the cluster property.
* `Break.word?`: the characters with a value of the word property.
* `Break.sentence?`: the characters with a value of the sentence property.
-/

namespace Highlighter

namespace Break

/-! ## Sets used by several divisions -/

/-- The carriage return. -/
def cr : CharSet := .single '\r'

/-- The line feed. -/
def lf : CharSet := .single '\n'

/-- The zero-width joiner. -/
def joiner : CharSet := .range 0x200D 0x200D

/-- The ends of lines that are neither a carriage return nor a line feed. -/
def lineEnds : CharSet := .ofRanges [(0x85, 0x85), (0x2028, 0x2029)]

/-- The marks that precede a number and belong to it. -/
def numberSigns : CharSet :=
  Property.prependedConcatenationMark.diff (.range 0x70F 0x70F)

/-- The digits, the signs of numbers, and what counts as a digit beside them. -/
def numeric : CharSet :=
  .unions [Category.decimalNumberMembers, numberSigns, .range 0x66B 0x66B, .range 0x19DA 0x19DA]

/-- The characters that extend the one before them, and all marks that take
    room. -/
def extend : CharSet :=
  Property.graphemeExtend.union Category.spacingMarkMembers

/-- The format characters that extend no other one. -/
def format : CharSet :=
  Category.formatMembers.diff (.unions [Property.graphemeExtend, numberSigns, joiner])

/-! ## User-perceived characters -/

/-- The characters that extend the one before them, emoji modifiers
    included. -/
def clusterExtend : CharSet :=
  (Property.graphemeExtend.union Property.emojiModifier).diff joiner

/-- The control characters and the unassigned ones that are invisible. -/
def clusterControl : CharSet :=
  (CharSet.unions [Category.unionOf [.lineSeparator, .paragraphSeparator, .control, .format],
    Category.unassigned.inter Property.defaultIgnorable]).diff
    (.unions [cr, lf, joiner, Property.prependedConcatenationMark, Property.graphemeExtend])

/-- The marks that take room and belong to the character before them. -/
def clusterSpacingMark : CharSet :=
  ((Category.spacingMarkMembers.union (.ofRanges [(0xE33, 0xE33), (0xEB3, 0xEB3)])).diff
    clusterExtend).diff (.ofRanges [
      (0x102B, 0x102C), (0x1038, 0x1038), (0x1062, 0x1064), (0x1067, 0x106D), (0x1083, 0x1083),
      (0x1087, 0x108C), (0x108F, 0x108F), (0x109A, 0x109C), (0x1A61, 0x1A61), (0x1A63, 0x1A64),
      (0xAA7B, 0xAA7B), (0xAA7D, 0xAA7D), (0x11720, 0x11721)])

/-- The characters that belong to the one behind them. -/
def clusterPrepend : CharSet :=
  Property.prependedConcatenationMark.union (.ofRanges [
    (0xD4E, 0xD4E), (0x111C2, 0x111C3), (0x113D1, 0x113D1), (0x1193F, 0x1193F),
    (0x11941, 0x11941), (0x11A3A, 0x11A3A), (0x11A84, 0x11A89), (0x11D46, 0x11D46),
    (0x11F02, 0x11F02)])

/-- The leading consonants of Hangul syllables. -/
def hangulLeading : CharSet := .ofRanges [(0x1100, 0x115F), (0xA960, 0xA97C)]

/-- The vowels of Hangul syllables, and others that act like them. -/
def hangulVowel : CharSet := .ofRanges [
  (0x1160, 0x11A7), (0xD7B0, 0xD7C6), (0x16D63, 0x16D63), (0x16D67, 0x16D6A)]

/-- The trailing consonants of Hangul syllables. -/
def hangulTrailing : CharSet := .ofRanges [(0x11A8, 0x11FF), (0xD7CB, 0xD7FB)]

/-- The Hangul syllables without a trailing consonant. Each of them is followed
    by the twenty-seven syllables that add one to it. -/
def hangulOpen : CharSet :=
  .ofRanges ((List.range 399).map fun i => (0xAC00 + 28 * i, 0xAC00 + 28 * i))

/-- The Hangul syllables with a trailing consonant. -/
def hangulClosed : CharSet := (CharSet.range 0xAC00 0xD7A3).diff hangulOpen

/-- The values of the cluster property with their names, in lower case and
    without separators. -/
def clusterTable : List (List String × CharSet) := [
  (["control", "cn"], clusterControl),
  (["cr"], cr),
  (["extend", "ex"], clusterExtend),
  (["l"], hangulLeading),
  (["lf"], lf),
  (["lv"], hangulOpen),
  (["lvt"], hangulClosed),
  (["prepend", "pp"], clusterPrepend),
  (["regionalindicator", "ri"], Property.regionalIndicator),
  (["spacingmark", "sm"], clusterSpacingMark),
  (["t"], hangulTrailing),
  (["v"], hangulVowel),
  (["zwj"], joiner)]

/-- The characters with a value of the cluster property. -/
def cluster? (name : String) : Option CharSet :=
  (clusterTable.find? (·.1.contains name)).map (·.2)

/-! ## Words -/

/-- The characters that extend the one before them, marks that take room and
    emoji modifiers included. -/
def wordExtend : CharSet :=
  (extend.union Property.emojiModifier).diff joiner

/-- The format characters that do not separate words. -/
def wordFormat : CharSet :=
  Category.formatMembers.diff (.unions [Property.graphemeExtend,
    Property.prependedConcatenationMark, .range 0x200B 0x200B, joiner])

/-- The Katakana letters, and the marks used among them. -/
def wordKatakana : CharSet :=
  Script.katakana.union (.ofRanges [
    (0x3031, 0x3035), (0x309B, 0x309C), (0x30A0, 0x30A0), (0x30FC, 0x30FC), (0xFF70, 0xFF70)])

/-- The Hebrew letters. -/
def hebrewLetter : CharSet := Script.hebrew.inter Category.otherLetterMembers

/-- The letters of scripts that write words without spaces between them. -/
def unspacedLetters : CharSet := .ofRanges [
  (0xE01, 0xE30), (0xE32, 0xE33), (0xE40, 0xE46), (0xE81, 0xE82), (0xE84, 0xE84), (0xE86, 0xE8A),
  (0xE8C, 0xEA3), (0xEA5, 0xEA5), (0xEA7, 0xEB0), (0xEB2, 0xEB3), (0xEBD, 0xEBD), (0xEC0, 0xEC4),
  (0xEC6, 0xEC6), (0xEDC, 0xEDF), (0x1000, 0x102A), (0x103F, 0x103F), (0x1050, 0x1055),
  (0x105A, 0x105D), (0x1061, 0x1061), (0x1065, 0x1066), (0x106E, 0x1070), (0x1075, 0x1081),
  (0x108E, 0x108E), (0x1780, 0x17B3), (0x17D7, 0x17D7), (0x17DC, 0x17DC), (0x1950, 0x196D),
  (0x1970, 0x1974), (0x1980, 0x19AB), (0x19B0, 0x19C9), (0x1A20, 0x1A54), (0x1AA7, 0x1AA7),
  (0xA9E0, 0xA9E4), (0xA9E6, 0xA9EF), (0xA9FA, 0xA9FE), (0xAA60, 0xAA76), (0xAA7A, 0xAA7A),
  (0xAA7E, 0xAAAF), (0xAAB1, 0xAAB1), (0xAAB5, 0xAAB6), (0xAAB9, 0xAABD), (0xAAC0, 0xAAC0),
  (0xAAC2, 0xAAC2), (0xAADB, 0xAADD), (0x11700, 0x1171A), (0x11740, 0x11746)]

/-- The letters of words: alphabetic characters and some signs used among them,
    without the scripts that have values or rules of their own. -/
def wordLetter : CharSet :=
  (Property.alphabetic.diff (.unions [Property.ideographic, wordKatakana, Script.hiragana,
    wordExtend, hebrewLetter, unspacedLetters])).union (.ofRanges [
      (0x2C2, 0x2C5), (0x2D2, 0x2D7), (0x2DE, 0x2DF), (0x2E5, 0x2EB), (0x2ED, 0x2ED),
      (0x2EF, 0x2FF), (0x55A, 0x55C), (0x55E, 0x55E), (0x58A, 0x58A), (0x5F3, 0x5F3),
      (0x70F, 0x70F), (0xA708, 0xA716), (0xA720, 0xA721), (0xA789, 0xA78A), (0xAB5B, 0xAB5B)])

/-- The signs that may stand between letters. -/
def midLetter : CharSet := .ofRanges [
  (0x3A, 0x3A), (0xB7, 0xB7), (0x387, 0x387), (0x55F, 0x55F), (0x5F4, 0x5F4), (0x2027, 0x2027),
  (0xFE13, 0xFE13), (0xFE55, 0xFE55), (0xFF1A, 0xFF1A)]

/-- The signs that may stand between digits. -/
def midNumber : CharSet := .ofRanges [
  (0x2C, 0x2C), (0x3B, 0x3B), (0x37E, 0x37E), (0x589, 0x589), (0x60C, 0x60D), (0x66C, 0x66C),
  (0x7F8, 0x7F8), (0x2044, 0x2044), (0xFE50, 0xFE50), (0xFE54, 0xFE54), (0xFF0C, 0xFF0C),
  (0xFF1B, 0xFF1B)]

/-- The signs that may stand between letters and between digits. -/
def midNumberLetter : CharSet := .ofRanges [
  (0x2E, 0x2E), (0x2018, 0x2019), (0x2024, 0x2024), (0xFE52, 0xFE52), (0xFF07, 0xFF07),
  (0xFF0E, 0xFF0E)]

/-- The spaces at which words are divided. -/
def wordSpace : CharSet :=
  Category.spaceSeparatorMembers.diff
    (.ofRanges [(0xA0, 0xA0), (0x2007, 0x2007), (0x202F, 0x202F)])

/-- The values of the word property with their names, in lower case and without
    separators. -/
def wordTable : List (List String × CharSet) := [
  (["aletter", "le"], wordLetter),
  (["cr"], cr),
  (["doublequote", "dq"], .single '"'),
  (["extend"], wordExtend),
  (["extendnumlet", "ex"],
    Category.connectorPunctuationMembers.union (.range 0x202F 0x202F)),
  (["format", "fo"], wordFormat),
  (["hebrewletter", "hl"], hebrewLetter),
  (["katakana", "ka"], wordKatakana),
  (["lf"], lf),
  (["midletter", "ml"], midLetter),
  (["midnum", "mn"], midNumber),
  (["midnumlet", "mb"], midNumberLetter),
  (["newline", "nl"], lineEnds.union (.range 0xB 0xC)),
  (["numeric", "nu"], numeric),
  (["regionalindicator", "ri"], Property.regionalIndicator),
  (["singlequote", "sq"], .single '\''),
  (["wsegspace"], wordSpace),
  (["zwj"], joiner)]

/-- The characters with a value of the word property. -/
def word? (name : String) : Option CharSet :=
  (wordTable.find? (·.1.contains name)).map (·.2)

/-! ## Sentences -/

/-- The full stops. -/
def fullStop : CharSet := .ofRanges [
  (0x2E, 0x2E), (0x2024, 0x2024), (0xFE52, 0xFE52), (0xFF0E, 0xFF0E)]

/-- The brackets and quotation marks. -/
def sentenceClose : CharSet :=
  (CharSet.unions [Category.unionOf [.openPunctuation, .closePunctuation, .initialPunctuation,
    .finalPunctuation], Property.quotationMark, .ofRanges [
      (0x275B, 0x2760), (0x2E00, 0x2E01), (0x2E06, 0x2E08), (0x2E0B, 0x2E0B),
      (0x1F676, 0x1F678)]]).diff (.ofRanges [(0xFF02, 0xFF02), (0xFF07, 0xFF07)])

/-- The small letters of sentences. Georgian has no case in them. -/
def sentenceLower : CharSet :=
  Property.lowercase.diff (.unions [Property.graphemeExtend,
    .ofRanges [(0x10D0, 0x10FA), (0x10FD, 0x10FF)]])

/-- The capital letters of sentences. -/
def sentenceUpper : CharSet :=
  (Property.uppercase.union Category.titlecaseLetterMembers).diff
    (.ofRanges [(0x1C90, 0x1CBA), (0x1CBD, 0x1CBF)])

/-- The letters of sentences that are neither small nor capital. -/
def sentenceLetter : CharSet :=
  (Property.alphabetic.diff (.unions [sentenceLower, sentenceUpper, extend])).union
    (.range 0x5F3 0x5F3)

/-- The punctuation inside sentences. -/
def sentenceContinue : CharSet := .ofRanges [
  (0x2C, 0x2D), (0x3A, 0x3B), (0x37E, 0x37E), (0x55D, 0x55D), (0x60C, 0x60D), (0x7F8, 0x7F8),
  (0x1802, 0x1802), (0x1808, 0x1808), (0x2013, 0x2014), (0x3001, 0x3001), (0xFE10, 0xFE11),
  (0xFE13, 0xFE14), (0xFE31, 0xFE32), (0xFE50, 0xFE51), (0xFE54, 0xFE55), (0xFE58, 0xFE58),
  (0xFE63, 0xFE63), (0xFF0C, 0xFF0D), (0xFF1A, 0xFF1B), (0xFF64, 0xFF64)]

/-- The values of the sentence property with their names, in lower case and
    without separators. -/
def sentenceTable : List (List String × CharSet) := [
  (["aterm", "at"], fullStop),
  (["close", "cl"], sentenceClose),
  (["cr"], cr),
  (["extend", "ex"], extend.union joiner),
  (["format", "fo"], format),
  (["lf"], lf),
  (["lower", "lo"], sentenceLower),
  (["numeric", "nu"], numeric.union (.range 0x66C 0x66C)),
  (["oletter", "le"], sentenceLetter),
  (["scontinue", "sc"], sentenceContinue),
  (["sep", "se"], lineEnds),
  (["sp"], Property.whiteSpace.diff (.unions [cr, lf, lineEnds])),
  (["sterm", "st"], Property.sentenceTerminal.diff fullStop),
  (["upper", "up"], sentenceUpper)]

/-- The characters with a value of the sentence property. -/
def sentence? (name : String) : Option CharSet :=
  (sentenceTable.find? (·.1.contains name)).map (·.2)

end Break

end Highlighter
