import Appraisal.Property.Category
import Appraisal.Property.Listed

/-!
# Derived properties

The properties that a character has or has not and that follow from its general category and from
the listed properties, and the sets of digits, blanks and word characters that the escapes of a
pattern stand for.
-/

namespace Appraisal.Property

/-! ### Letters -/

/-- Small letters. -/
def lowercase : CharSet := .union (Category.set .lowercaseLetter) otherLowercase

/-- Capital letters. -/
def uppercase : CharSet := .union (Category.set .uppercaseLetter) otherUppercase

/-- Letters with a small and a capital form. -/
def cased : CharSet := .unions [lowercase, uppercase, Category.set .titlecaseLetter]

/-- Letters, and the signs that are used as such. -/
def alphabetic : CharSet := .unions [cased,
  Category.sets [.modifierLetter, .otherLetter, .letterNumber], otherAlphabetic]

/-- Signs that may stand between two letters of a word. -/
def wordMiddles : CharSet := .ofTable [
  "27 2e 3a b7 387 55f 5f4 2018-2019 2024 2027 fe13 fe52 fe55 ff07 ff0e ff1a"]

/-- Characters that do not count when the letters around one are looked at. -/
def caseIgnorable : CharSet := .union wordMiddles <| Category.sets
  [.nonspacingMark, .enclosingMark, .format, .modifierLetter, .modifierSymbol]

/-! ### Changes of case -/

/-- Capital letters without a small form. -/
def withoutSmall : CharSet := .ofTable [
  "3d2-3d4 2102 2107 210b-210d 2110-2112 2115 2119-211d 2124 2128 212c-212d 2130-2131 2133",
  "213e-213f 2145 1d400-1d419 1d434-1d44d 1d468-1d481 1d49c 1d49e-1d49f 1d4a2 1d4a5-1d4a6",
  "1d4a9-1d4ac 1d4ae-1d4b5 1d4d0-1d4e9 1d504-1d505 1d507-1d50a 1d50d-1d514 1d516-1d51c",
  "1d538-1d539 1d53b-1d53e 1d540-1d544 1d546 1d54a-1d550 1d56c-1d585 1d5a0-1d5b9 1d5d4-1d5ed",
  "1d608-1d621 1d63c-1d655 1d670-1d689 1d6a8-1d6c0 1d6e2-1d6fa 1d71c-1d734 1d756-1d76e",
  "1d790-1d7a8 1d7ca 1f130-1f149 1f150-1f169 1f170-1f189"]

/-- Small letters without a capital form. -/
def withoutCapital : CharSet := .ofTable [
  "aa ba 138 18d 1aa-1ab 1ba 1be 221 234-239 255 258 25a 25d-25f 262 267 26d-26e 270 273-274",
  "276-27c 27e-27f 281 284-286 28d-291 293 295-29c 29f-2b8 2c0-2c1 2e0-2e4 37a 3fc 560 588 10fc",
  "1d00-1d78 1d7a-1d7c 1d7e-1d8d 1d8f-1dbf 1e9c-1e9d 1e9f 2071 207f 2090-209c 210a 210e-210f 2113",
  "212f 2134 2139 213c-213d 2146-2149 2c71 2c74 2c77-2c7d 2ce4 a69c-a69d a730-a731 a770-a778 a78e",
  "a795 a7af a7d3 a7d5 a7f2-a7f4 a7f8-a7fa ab30-ab52 ab54-ab5a ab5c-ab69 10780 10783-10785",
  "10787-107b0 107b2-107ba 1d41a-1d433 1d44e-1d454 1d456-1d467 1d482-1d49b 1d4b6-1d4b9 1d4bb",
  "1d4bd-1d4c3 1d4c5-1d4cf 1d4ea-1d503 1d51e-1d537 1d552-1d56b 1d586-1d59f 1d5ba-1d5d3",
  "1d5ee-1d607 1d622-1d63b 1d656-1d66f 1d68a-1d6a5 1d6c2-1d6da 1d6dc-1d6e1 1d6fc-1d714",
  "1d716-1d71b 1d736-1d74e 1d750-1d755 1d770-1d788 1d78a-1d78f 1d7aa-1d7c2 1d7c4-1d7c9 1d7cb",
  "1df00-1df09 1df0b-1df1e 1df25-1df2a 1e030-1e06d"]

/-- Letters that have a capital form and stand in titles as they are. -/
def withoutTitle : CharSet := .ofTable [
  "1c5 1c8 1cb 1f2 10d0-10fa 10fd-10ff 1f88-1f8f 1f98-1f9f 1fa8-1faf 1fbc 1fcc 1ffc"]

/-- Capital letters that stand in titles in another form. -/
def onlyTitle : CharSet := .ofTable ["1c4 1c7 1ca 1f1"]

/-- Capital letters that small ones fold to. -/
def foldedAsCapitals : CharSet := .ofTable ["13a0-13f5"]

/-- Small letters that fold to other letters. -/
def foldedSmall : CharSet := .ofTable [
  "b5 df 149 17f 345 3c2 3d0-3d1 3d5-3d6 3f0-3f1 3f5 587 13f8-13fd 1c80-1c88 1e9a-1e9b 1f80-1f87",
  "1f90-1f97 1fa0-1fa7 1fb2-1fb4 1fb7 1fc2-1fc4 1fc7 1ff2-1ff4 1ff7 ab70-abbf fb00-fb06 fb13-fb17"]

/-- Letters with another small form. -/
def changesWhenLowercased : CharSet :=
  .diff (.union uppercase (Category.set .titlecaseLetter)) withoutSmall

/-- Letters with another capital form. -/
def changesWhenUppercased : CharSet :=
  .diff (.union lowercase (Category.set .titlecaseLetter)) withoutCapital

/-- Letters with another form in titles. -/
def changesWhenTitlecased : CharSet :=
  .union (.diff changesWhenUppercased withoutTitle) onlyTitle

/-- Letters with another form of any of these kinds. -/
def changesWhenCasemapped : CharSet :=
  .unions [changesWhenLowercased, changesWhenUppercased, changesWhenTitlecased]

/-- Letters that fold to others. -/
def changesWhenCasefolded : CharSet :=
  .union (.diff changesWhenLowercased foldedAsCapitals) foldedSmall

/-! ### Graphemes -/

/-- Characters that continue the one before them. -/
def graphemeExtend : CharSet :=
  .union (Category.sets [.nonspacingMark, .enclosingMark]) otherGraphemeExtend

/-- Characters that others may continue. -/
def graphemeBase : CharSet := CharSet.complement <| .unions [
  Category.sets [.control, .format, .privateUse, .lineSeparator, .paragraphSeparator],
  unassigned, graphemeExtend]

/-- Format characters that are shown. -/
def visibleFormats : CharSet := .ofTable ["fff9-fffb 13430-1343f"]

/-- Code points that are not shown where they are not supported. -/
def defaultIgnorableCodePoint : CharSet := .diff
  (.unions [otherDefaultIgnorableCodePoint, Category.set .format, variationSelector])
  (.union visibleFormats prependedConcatenationMark)

/-! ### Identifiers -/

/-- Mathematical characters. -/
def math : CharSet := .union (Category.set .mathSymbol) otherMath

/-- Characters kept for patterns, which no identifier holds. -/
def ofPatterns : CharSet := .union patternSyntax patternWhiteSpace

/-- Characters that an identifier may start with. -/
def idStart : CharSet :=
  .diff (.unions [letters, Category.set .letterNumber, otherIdStart]) ofPatterns

/-- Characters of identifiers. -/
def idContinue : CharSet := .diff
  (.unions [idStart, otherIdContinue,
    Category.sets [.nonspacingMark, .spacingMark, .decimalNumber, .connectorPunctuation]])
  ofPatterns

/-- Characters of identifiers that normalization takes apart into others. -/
def unstable : CharSet := .ofTable ["37a 309b-309c fc5e-fc63 fdfa-fdfb fe70+fe7e"]

/-- Further ones that normalization moves away from the start. -/
def unstableStart : CharSet := .ofTable ["e33 eb3 ff9e-ff9f"]

/-- Characters that an identifier may start with, also after normalization. -/
def xidStart : CharSet := .diff idStart (.union unstable unstableStart)

/-- Characters of identifiers, also after normalization. -/
def xidContinue : CharSet := .diff idContinue unstable

/-! ### What escapes stand for -/

/-- The decimal digits. -/
def digits : CharSet := Category.set .decimalNumber

/-- The characters of words: letters, marks, decimal digits, connecting punctuation and
joiners. -/
def words : CharSet := .unions
  [alphabetic, marks, digits, Category.set .connectorPunctuation, joinControl]

/-! ### Names -/

/-- The properties, each with its names. -/
def derived : List (List String × CharSet) := [
  (["alphabetic", "alpha"], alphabetic),
  (["caseignorable", "ci"], caseIgnorable),
  (["cased"], cased),
  (["changeswhencasefolded", "cwcf"], changesWhenCasefolded),
  (["changeswhencasemapped", "cwcm"], changesWhenCasemapped),
  (["changeswhenlowercased", "cwl"], changesWhenLowercased),
  (["changeswhentitlecased", "cwt"], changesWhenTitlecased),
  (["changeswhenuppercased", "cwu"], changesWhenUppercased),
  (["defaultignorablecodepoint", "di"], defaultIgnorableCodePoint),
  (["graphemebase", "grbase"], graphemeBase),
  (["graphemeextend", "grext"], graphemeExtend),
  (["idcontinue", "idc"], idContinue),
  (["idstart", "ids"], idStart),
  (["lowercase", "lower"], lowercase),
  (["math"], math),
  (["uppercase", "upper"], uppercase),
  (["xidcontinue", "xidc"], xidContinue),
  (["xidstart", "xids"], xidStart)]

end Appraisal.Property
