import CustomProps.Unicode.Property
import CustomProps.Unicode.Script
/-!
What a code point does at the borders of user-perceived characters, words and sentences, in version
16.0 of the character database. Each of the three classifications is derived from categories,
properties and scripts, with short lists for what these do not account for.
-/
namespace CustomProps.Unicode.Segmentation

/-- Tags, which extend a picture although they are format marks. -/
def tag : CodeSet := .ofRange 0xe0020 0xe007f

def zeroWidthJoiner : CodeSet := .singleton 0x200d

def zeroWidthNonJoiner : CodeSet := .singleton 0x200c

def zeroWidthSpace : CodeSet := .singleton 0x200b

def lineFeed : CodeSet := .singleton 0x0a

def carriageReturn : CodeSet := .singleton 0x0d

/-- Marks that belong to the sign before them, spacing ones included. -/
def extending : CodeSet := Property.graphemeExtend ∪ Category.among [.spacingMark]

/-! ### User-perceived characters -/

def leadingJamo : CodeSet := .ofRange 0x1100 0x115f ∪ .ofRange 0xa960 0xa97c

/-- Vowels that join the consonant before them: those of Hangul and some of Kirat Rai. -/
def joiningVowel : CodeSet :=
  .union [.ofRange 0x1160 0x11a7, .ofRange 0xd7b0 0xd7c6, .singleton 0x16d63,
    .ofRange 0x16d67 0x16d6a]

def trailingJamo : CodeSet := .ofRange 0x11a8 0x11ff ∪ .ofRange 0xd7cb 0xd7fb

/-- Hangul syllables, with or without a trailing consonant. -/
def syllable : CodeSet := .ofRange 0xac00 0xd7a3

/-- Every 28th syllable ends in its vowel. -/
def openSyllable : CodeSet := .union ((List.range 399).map fun i => .singleton (0xac00 + 28 * i))

/-- Consonant signs that are written before the consonant they belong to. -/
def prefixedConsonant : CodeSet := .ofText
  "d4e 111c2-111c3 113d1 1193f 11941 11a3a 11a84-11a89 11d46 11f02"

/-- Spacing marks that do not attach to the sign before them. -/
def standaloneMark : CodeSet := .ofText
  "102b-102c 1038 1062-1064 1067-106d 1083 1087-108c 108f 109a-109c 1a61 1a63-1a64 aa7b aa7d
  11720-11721"

def control : CodeSet :=
  (Category.among [.lineSeparator, .paragraphSeparator, .control, .format] ∪
      (Category.among [.unassigned] ∩ Property.defaultIgnorable)) \
    .union [carriageReturn, lineFeed, zeroWidthJoiner, zeroWidthNonJoiner, tag,
      Property.prependedMark]

def spacingMark : CodeSet :=
  (Category.among [.spacingMark] \ (Property.graphemeExtend ∪ standaloneMark)) ∪
    .singleton 0x0e33 ∪ .singleton 0x0eb3

/-- The values of the classification of user-perceived characters, and the code points that have
them. -/
def graphemeBreak : List (List String × CodeSet) :=
  [(["CN", "Control"], control),
    (["CR", "CR"], carriageReturn),
    (["EX", "Extend"], Property.graphemeExtend ∪ Property.emojiModifier),
    (["L", "L"], leadingJamo),
    (["LF", "LF"], lineFeed),
    (["LV", "LV"], openSyllable),
    (["LVT", "LVT"], syllable \ openSyllable),
    (["PP", "Prepend"], Property.prependedMark ∪ prefixedConsonant),
    (["RI", "Regional_Indicator"], Property.regionalIndicator),
    (["SM", "SpacingMark"], spacingMark),
    (["T", "T"], trailingJamo),
    (["V", "V"], joiningVowel),
    (["ZWJ", "ZWJ"], zeroWidthJoiner)]

/-! ### Words -/

/-- Letters of the Hebrew alphabet. -/
def hebrewLetter : CodeSet := .ofText
  "5d0-5ea 5ef-5f2 fb1d fb1f-fb28 fb2a-fb36 fb38-fb3c fb3e fb40-fb41 fb43-fb44 fb46-fb4f"

/-- Signs of the katakana syllabary and the marks used with it. -/
def katakana : CodeSet := .ofText
  "3031-3035 309b-309c 30a0-30fa 30fc-30ff 31f0-31ff 32d0-32fe 3300-3357 ff66-ff9d 1aff0-1aff3
  1aff5-1affb 1affd-1affe 1b000 1b120-1b122 1b155 1b164-1b167"

/-- Signs that count as letters in words although they are not alphabetic. -/
def wordLetterSign : CodeSet := .ofText
  "2c2-2c5 2d2-2d7 2de-2df 2e5-2eb 2ed 2ef-2ff 55a-55c 55e 58a 5f3 70f a708-a716 a720-a721
  a789-a78a ab5b"

/-- Tai letters that are written without spaces between words. -/
def newTaiLetter : CodeSet := .ofText
  "1950-196d 1970-1974"

/-- Connectors of letters and digits. -/
def connector : CodeSet := .ofText
  "5f 202f 203f-2040 2054 fe33-fe34 fe4d-fe4f ff3f"

/-- Signs that stand with the digits of a number. -/
def numeralSign : CodeSet := .ofText
  "600-605 66b 6dd 890-891 8e2 19da 110bd 110cd"

/-- Marks inside numbers. -/
def midNumber : CodeSet := .ofText
  "2c 3b 37e 589 60c-60d 66c 7f8 2044 fe50 fe54 ff0c ff1b"

/-- Marks inside words. -/
def midLetter : CodeSet := .ofText
  "3a b7 387 55f 5f4 2027 fe13 fe55 ff1a"

/-- Marks inside words and numbers. -/
def midEither : CodeSet := .ofText
  "2e 2018-2019 2024 fe52 ff07 ff0e"

/-- Code points of scripts that are written without spaces between words. -/
def unspaced : CodeSet :=
  .union (["Ahom", "Hira", "Khmr", "Lana", "Laoo", "Mymr", "Talu", "Tavt", "Thai"].map Script.codes)

def wordExtend : CodeSet := (extending ∪ Property.emojiModifier) \ zeroWidthJoiner

def wordFormat : CodeSet :=
  Category.among [.format] \
    .union [zeroWidthSpace, zeroWidthJoiner, zeroWidthNonJoiner, tag, Property.prependedMark]

def wordLetter : CodeSet :=
  (Property.alphabetic \
      .union [Property.ideographic, katakana, hebrewLetter, wordExtend, unspaced, newTaiLetter]) ∪
    wordLetterSign

def numeric : CodeSet := Category.among [.decimalNumber] ∪ numeralSign

def breakingSpace : CodeSet :=
  Category.among [.spaceSeparator] \
    .union [.singleton 0xa0, .singleton 0x2007, .singleton 0x202f]

def paragraphMark : CodeSet := .union [.singleton 0x85, .singleton 0x2028, .singleton 0x2029]

/-- The values of the classification of words, and the code points that have them. -/
def wordBreak : List (List String × CodeSet) :=
  [(["CR", "CR"], carriageReturn),
    (["DQ", "Double_Quote"], .singleton 0x22),
    (["EX", "ExtendNumLet"], connector),
    (["Extend", "Extend"], wordExtend),
    (["FO", "Format"], wordFormat),
    (["HL", "Hebrew_Letter"], hebrewLetter),
    (["KA", "Katakana"], katakana),
    (["LE", "ALetter"], wordLetter),
    (["LF", "LF"], lineFeed),
    (["MB", "MidNumLet"], midEither),
    (["ML", "MidLetter"], midLetter),
    (["MN", "MidNum"], midNumber),
    (["NL", "Newline"], .ofRange 0x0b 0x0c ∪ paragraphMark),
    (["NU", "Numeric"], numeric),
    (["RI", "Regional_Indicator"], Property.regionalIndicator),
    (["SQ", "Single_Quote"], .singleton 0x27),
    (["WSegSpace", "WSegSpace"], breakingSpace),
    (["ZWJ", "ZWJ"], zeroWidthJoiner)]

/-! ### Sentences -/

/-- Full stops, which may also end an abbreviation. -/
def ambiguousTerminal : CodeSet := .ofText
  "2e 2024 fe52 ff0e"

/-- Punctuation after which a sentence goes on. -/
def continuation : CodeSet := .ofText
  "2c-2d 3a-3b 37e 55d 60c-60d 7f8 1802 1808 2013-2014 3001 fe10-fe11 fe13-fe14 fe31-fe32
  fe50-fe51 fe54-fe55 fe58 fe63 ff0c-ff0d ff1a-ff1b ff64"

/-- Quotation marks and ornaments that close a sentence but are no brackets. -/
def closingMark : CodeSet := .ofText
  "22 27 275b-2760 2e00-2e01 2e06-2e08 2e0b 1f676-1f678"

/-- Capital forms of Georgian letters, which begin no sentence. -/
def georgianCapital : CodeSet := .ofText
  "1c90-1cba 1cbd-1cbf"

/-- Georgian letters, which have no case in running text. -/
def georgianLetter : CodeSet := .ofText
  "10d0-10fa 10fd-10ff"

def sentenceExtend : CodeSet := extending ∪ zeroWidthJoiner

def sentenceFormat : CodeSet :=
  Category.among [.format] \ .union [zeroWidthJoiner, zeroWidthNonJoiner, tag, numeric]

def sentenceLower : CodeSet := Property.lowercase \ (Property.graphemeExtend ∪ georgianLetter)

def sentenceUpper : CodeSet := (Property.uppercase ∪ Property.titlecase) \ georgianCapital

def sentenceLetter : CodeSet :=
  (Property.alphabetic ∪ .singleton 0x05f3) \
    .union [sentenceLower, sentenceUpper, sentenceExtend]

/-- The values of the classification of sentences, and the code points that have them. -/
def sentenceBreak : List (List String × CodeSet) :=
  [(["AT", "ATerm"], ambiguousTerminal),
    (["CL", "Close"],
      Category.among [.openPunctuation, .closePunctuation, .initialPunctuation,
        .finalPunctuation] ∪ closingMark),
    (["CR", "CR"], carriageReturn),
    (["EX", "Extend"], sentenceExtend),
    (["FO", "Format"], sentenceFormat),
    (["LE", "OLetter"], sentenceLetter),
    (["LF", "LF"], lineFeed),
    (["LO", "Lower"], sentenceLower),
    (["NU", "Numeric"], numeric ∪ .singleton 0x066c),
    (["SC", "SContinue"], continuation),
    (["SE", "Sep"], paragraphMark),
    (["SP", "Sp"], Property.whiteSpace \ .union [carriageReturn, lineFeed, paragraphMark]),
    (["ST", "STerm"], Property.sentenceTerminal \ ambiguousTerminal),
    (["UP", "Upper"], sentenceUpper)]

end CustomProps.Unicode.Segmentation
