import Appraisal.Property.Derived
import Appraisal.Property.Script

/-!
# Boundaries in text

The Unicode properties `Grapheme_Cluster_Break`, `Word_Break` and `Sentence_Break` of version 16 of
the standard: what a character means for the places where graphemes, words and sentences end.
-/

namespace Appraisal.Property

/-! ### Characters of one kind each -/

/-- The carriage return. -/
def carriageReturn : CharSet := .ofTable ["d"]

/-- The line feed. -/
def lineFeed : CharSet := .ofTable ["a"]

/-- The sign that joins what stands on its sides. -/
def joiner : CharSet := .ofTable ["200d"]

/-- The sign that keeps apart what stands on its sides. -/
def nonJoiner : CharSet := .ofTable ["200c"]

/-- The invisible letters that tag the text around them. -/
def tags : CharSet := .ofTable ["e0020-e007f"]

/-! ### Graphemes -/

/-- Hangul letters at the start of a syllable. -/
def leadConsonants : CharSet := .ofTable ["1100-115f a960-a97c"]

/-- Hangul letters in the middle of a syllable. -/
def vowels : CharSet := .ofTable ["1160-11a7 d7b0-d7c6 16d63 16d67-16d6a"]

/-- Hangul letters at the end of a syllable. -/
def finalConsonants : CharSet := .ofTable ["11a8-11ff d7cb-d7fb"]

/-- Hangul syllables without a final consonant: every twenty-eighth one. -/
def openSyllables : CharSet := .ofAscending <|
  (List.range 399).map fun i => (0xac00 + 28 * i, 0xac00 + 28 * i)

/-- All Hangul syllables. -/
def syllables : CharSet := .ofTable ["ac00-d7a3"]

/-- Marks with a width of their own that do not continue the character before them. -/
def detachedMarks : CharSet := .ofTable [
  "102b-102c 1038 1062-1064 1067-106d 1083 1087-108c 108f 109a-109c 1a61 1a63-1a64 aa7b aa7d",
  "11720-11721"]

/-- Vowels that continue the character before them. -/
def spacingVowels : CharSet := .ofTable ["e33 eb3"]

/-- Letters that belong to the one after them. -/
def prefixLetters : CharSet := .ofTable [
  "d4e 111c2-111c3 113d1 1193f 11941 11a3a 11a84-11a89 11d46 11f02"]

/-- The classes of graphemes, each with its names. -/
def graphemeBreaks : List (List String × CharSet) := [
  (["cr"], carriageReturn),
  (["lf"], lineFeed),
  (["control", "cn"], .diff
    (.union (Category.sets [.lineSeparator, .paragraphSeparator, .control, .format])
      (.inter unassigned defaultIgnorableCodePoint))
    (.unions [carriageReturn, lineFeed, joiner, nonJoiner, prependedConcatenationMark, tags])),
  (["extend", "ex"], .diff (.union graphemeExtend emojiModifier) joiner),
  (["zwj"], joiner),
  (["regionalindicator", "ri"], regionalIndicator),
  (["prepend", "pp"], .union prependedConcatenationMark prefixLetters),
  (["spacingmark", "sm"],
    .union (.diff (Category.set .spacingMark) (.union graphemeExtend detachedMarks)) spacingVowels),
  (["l"], leadConsonants),
  (["v"], vowels),
  (["t"], finalConsonants),
  (["lv"], openSyllables),
  (["lvt"], .diff syllables openSyllables)]

/-! ### Words -/

/-- The blank without width. -/
def zeroWidthSpace : CharSet := .ofTable ["200b"]

/-- Format characters within words. -/
def wordFormat : CharSet := .diff (Category.set .format)
  (.unions [zeroWidthSpace, nonJoiner, joiner, prependedConcatenationMark, tags])

/-- Characters that continue the one before them, marks with a width of their own among them. -/
def wordExtend : CharSet :=
  .diff (.unions [graphemeExtend, Category.set .spacingMark, emojiModifier]) joiner

/-- Signs used with Katakana. -/
def katakanaSigns : CharSet := .ofTable ["3031-3035 309b-309c 30a0 30fc ff70"]

/-- Katakana and the signs used with it. -/
def katakana : CharSet := .union ((script? "kana").getD .empty) katakanaSigns

/-- Hebrew letters. -/
def hebrewLetters : CharSet := .inter ((script? "hebr").getD .empty) (Category.set .otherLetter)

/-- Signs that belong to numbers without being decimal digits. -/
def numericSigns : CharSet := .ofTable ["600-605 66b 6dd 890-891 8e2 19da 110bd 110cd"]

/-- Digits and the signs that belong to numbers. -/
def numeric : CharSet := .union digits numericSigns

/-- Letters of scripts that are written without blanks between words. -/
def unspacedLetters : CharSet := .ofTable [
  "e01-e30 e32-e33 e40-e46 e81-e82 e84 e86-e8a e8c-ea3 ea5 ea7-eb0 eb2-eb3 ebd ec0-ec4 ec6",
  "edc-edf 1000-102a 103f 1050-1055 105a-105d 1061 1065-1066 106e-1070 1075-1081 108e 1780-17b3",
  "17d7 17dc 1950-196d 1970-1974 1980-19ab 19b0-19c9 1a20-1a54 1aa7 a9e0-a9e4 a9e6-a9ef a9fa-a9fe",
  "aa60-aa76 aa7a aa7e-aaaf aab1 aab5-aab6 aab9-aabd aac0 aac2 aadb-aadd 11700-1171a 11740-11746"]

/-- Signs that count as letters of words. -/
def letterSigns : CharSet := .ofTable [
  "2c2-2c5 2d2-2d7 2de-2df 2e5-2eb 2ed 2ef-2ff 55a-55c 55e 58a 5f3 70f a708-a716 a720-a721",
  "a789-a78a ab5b"]

/-- Letters of words in scripts that put blanks between them. -/
def wordLetters : CharSet := .union letterSigns <| .diff alphabetic <| .unions
  [ideographic, katakana, (script? "hira").getD .empty, wordExtend, hebrewLetters, unspacedLetters]

/-- The classes of words, each with its names. -/
def wordBreaks : List (List String × CharSet) := [
  (["cr"], carriageReturn),
  (["lf"], lineFeed),
  (["newline", "nl"], .ofTable ["b-c 85 2028-2029"]),
  (["extend"], wordExtend),
  (["zwj"], joiner),
  (["format", "fo"], wordFormat),
  (["katakana", "ka"], katakana),
  (["hebrewletter", "hl"], hebrewLetters),
  (["aletter", "le"], wordLetters),
  (["singlequote", "sq"], .ofTable ["27"]),
  (["doublequote", "dq"], .ofTable ["22"]),
  (["midnumlet", "mb"], .ofTable ["2e 2018-2019 2024 fe52 ff07 ff0e"]),
  (["midletter", "ml"], .ofTable ["3a b7 387 55f 5f4 2027 fe13 fe55 ff1a"]),
  (["midnum", "mn"], .ofTable ["2c 3b 37e 589 60c-60d 66c 7f8 2044 fe50 fe54 ff0c ff1b"]),
  (["numeric", "nu"], numeric),
  (["extendnumlet", "ex"],
    .union (Category.set .connectorPunctuation) (.ofTable ["202f"])),
  (["regionalindicator", "ri"], regionalIndicator),
  (["wsegspace"], .ofTable ["20 1680 2000-2006 2008-200a 205f 3000"])]

/-! ### Sentences -/

/-- Georgian letters, which are not told apart by case. -/
def georgianLetters : CharSet := .ofTable ["10d0-10fa 10fd-10ff 1c90-1cba 1cbd-1cbf"]

/-- Characters that continue the one before them, the joiner among them. -/
def sentenceExtend : CharSet :=
  .unions [graphemeExtend, Category.set .spacingMark, joiner]

/-- Small letters of sentences. -/
def sentenceLower : CharSet := .diff lowercase (.union sentenceExtend georgianLetters)

/-- Capital letters of sentences. -/
def sentenceUpper : CharSet :=
  .diff (.union uppercase (Category.set .titlecaseLetter)) georgianLetters

/-- Full stops, which need not end a sentence. -/
def fullStops : CharSet := .ofTable ["2e 2024 fe52 ff0e"]

/-- Signs that end a paragraph, those of line endings apart. -/
def paragraphEnds : CharSet := .ofTable ["85 2028-2029"]

/-- Further signs that may close a quotation. -/
def closingSigns : CharSet := .ofTable ["275b-2760 2e00-2e01 2e06-2e08 2e0b 1f676-1f678"]

/-- The classes of sentences, each with its names. -/
def sentenceBreaks : List (List String × CharSet) := [
  (["cr"], carriageReturn),
  (["lf"], lineFeed),
  (["extend", "ex"], sentenceExtend),
  (["sep", "se"], paragraphEnds),
  (["format", "fo"], .union (.ofTable ["70f"]) <| .diff (Category.set .format) <| .unions
    [nonJoiner, joiner, prependedConcatenationMark, tags]),
  (["sp"], .diff whiteSpace (.unions [paragraphEnds, carriageReturn, lineFeed])),
  (["lower", "lo"], sentenceLower),
  (["upper", "up"], sentenceUpper),
  (["oletter", "le"], .diff (.union alphabetic (.ofTable ["5f3"]))
    (.unions [sentenceLower, sentenceUpper, sentenceExtend])),
  (["numeric", "nu"], .union numeric (.ofTable ["66c"])),
  (["aterm", "at"], fullStops),
  (["scontinue", "sc"], .ofTable [
    "2c-2d 3a-3b 37e 55d 60c-60d 7f8 1802 1808 2013-2014 3001 fe10-fe11 fe13-fe14 fe31-fe32",
    "fe50-fe51 fe54-fe55 fe58 fe63 ff0c-ff0d ff1a-ff1b ff64"]),
  (["sterm", "st"], .diff sentenceTerminal fullStops),
  (["close", "cl"], .union closingSigns <| .diff
    (.union quotationMark (Category.sets
      [.openPunctuation, .closePunctuation, .initialPunctuation, .finalPunctuation]))
    (.ofTable ["ff02 ff07"]))]

end Appraisal.Property
