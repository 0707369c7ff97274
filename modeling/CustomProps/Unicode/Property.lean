import CustomProps.Unicode.CaseFolding
import CustomProps.Unicode.Category
/-!
Binary properties of code points, in version 16.0 of the character database. Properties that the
database derives are derived here too, from the general category and a short list of the code points
that the category does not account for; the rest are tables.
-/
namespace CustomProps.Unicode.Property

/-! ### Letters and case -/

/-- Alphabetic code points that are neither letters nor letter numbers. -/
def otherAlphabetic : CodeSet := .ofText
  "345 363-36f 5b0-5bd 5bf 5c1-5c2 5c4-5c5 5c7 610-61a 64b-657 659-65f 670 6d6-6dc 6e1-6e4
  6e7-6e8 6ed 711 730-73f 7a6-7b0 816-817 81b-823 825-827 829-82c 897 8d4-8df 8e3-8e9 8f0-903
  93a-93b 93e-94c 94e-94f 955-957 962-963 981-983 9be-9c4 9c7-9c8 9cb-9cc 9d7 9e2-9e3 a01-a03
  a3e-a42 a47-a48 a4b-a4c a51 a70-a71 a75 a81-a83 abe-ac5 ac7-ac9 acb-acc ae2-ae3 afa-afc
  b01-b03 b3e-b44 b47-b48 b4b-b4c b56-b57 b62-b63 b82 bbe-bc2 bc6-bc8 bca-bcc bd7 c00-c04
  c3e-c44 c46-c48 c4a-c4c c55-c56 c62-c63 c81-c83 cbe-cc4 cc6-cc8 cca-ccc cd5-cd6 ce2-ce3 cf3
  d00-d03 d3e-d44 d46-d48 d4a-d4c d57 d62-d63 d81-d83 dcf-dd4 dd6 dd8-ddf df2-df3 e31 e34-e3a
  e4d eb1 eb4-eb9 ebb-ebc ecd f71-f83 f8d-f97 f99-fbc 102b-1036 1038 103b-103e 1056-1059
  105e-1060 1062-1064 1067-106d 1071-1074 1082-108d 108f 109a-109d 1712-1713 1732-1733
  1752-1753 1772-1773 17b6-17c8 1885-1886 18a9 1920-192b 1930-1938 1a17-1a1b 1a55-1a5e
  1a61-1a74 1abf-1ac0 1acc-1ace 1b00-1b04 1b35-1b43 1b80-1b82 1ba1-1ba9 1bac-1bad 1be7-1bf1
  1c24-1c36 1dd3-1df4 24b6-24e9 2de0-2dff a674-a67b a69e-a69f a802 a80b a823-a827 a880-a881
  a8b4-a8c3 a8c5 a8ff a926-a92a a947-a952 a980-a983 a9b4-a9bf a9e5 aa29-aa36 aa43 aa4c-aa4d
  aa7b-aa7d aab0 aab2-aab4 aab7-aab8 aabe aaeb-aaef aaf5 abe3-abea fb1e 10376-1037a
  10a01-10a03 10a05-10a06 10a0c-10a0f 10d24-10d27 10d69 10eab-10eac 10efc 11000-11002
  11038-11045 11073-11074 11080-11082 110b0-110b8 110c2 11100-11102 11127-11132 11145-11146
  11180-11182 111b3-111bf 111ce-111cf 1122c-11234 11237 1123e 11241 112df-112e8 11300-11303
  1133e-11344 11347-11348 1134b-1134c 11357 11362-11363 113b8-113c0 113c2 113c5 113c7-113ca
  113cc-113cd 11435-11441 11443-11445 114b0-114c1 115af-115b5 115b8-115be 115dc-115dd
  11630-1163e 11640 116ab-116b5 1171d-1172a 1182c-11838 11930-11935 11937-11938 1193b-1193c
  11940 11942 119d1-119d7 119da-119df 119e4 11a01-11a0a 11a35-11a39 11a3b-11a3e 11a51-11a5b
  11a8a-11a97 11c2f-11c36 11c38-11c3e 11c92-11ca7 11ca9-11cb6 11d31-11d36 11d3a 11d3c-11d3d
  11d3f-11d41 11d43 11d47 11d8a-11d8e 11d90-11d91 11d93-11d96 11ef3-11ef6 11f00-11f01 11f03
  11f34-11f3a 11f3e-11f40 1611e-1612e 16f4f 16f51-16f87 16f8f-16f92 16ff0-16ff1 1bc9e
  1e000-1e006 1e008-1e018 1e01b-1e021 1e023-1e024 1e026-1e02a 1e08f 1e947 1f130-1f149
  1f150-1f169 1f170-1f189"

def alphabetic : CodeSet :=
  Category.codes (·.isLetter) ∪ Category.among [.letterNumber] ∪ otherAlphabetic

/-- Lower-case code points that are not lower-case letters. -/
def otherLowercase : CodeSet := .ofText
  "aa ba 2b0-2b8 2c0-2c1 2e0-2e4 345 37a 10fc 1d2c-1d6a 1d78 1d9b-1dbf 2071 207f 2090-209c
  2170-217f 24d0-24e9 2c7c-2c7d a69c-a69d a770 a7f2-a7f4 a7f8-a7f9 ab5c-ab5f ab69 10780
  10783-10785 10787-107b0 107b2-107ba 1e030-1e06d"

def lowercase : CodeSet := Category.among [.lowercaseLetter] ∪ otherLowercase

/-- Upper-case code points that are not upper-case letters. -/
def otherUppercase : CodeSet := .ofText
  "2160-216f 24b6-24cf 1f130-1f149 1f150-1f169 1f170-1f189"

def uppercase : CodeSet := Category.among [.uppercaseLetter] ∪ otherUppercase

def titlecase : CodeSet := Category.among [.titlecaseLetter]

def cased : CodeSet := lowercase ∪ uppercase ∪ titlecase

/-- Code points that are alone in their case orbit but change in some case mapping. -/
def foldlessChanging : CodeSet := .ofText
  "130-131 149 1f0 587 1e96-1e9a 1f50 1f52 1f54 1f56 1fb2 1fb4 1fb6-1fb7 1fc2 1fc4 1fc6-1fc7
  1fd2 1fd6-1fd7 1fe2 1fe4 1fe6-1fe7 1ff2 1ff4 1ff6-1ff7 fb00-fb04 fb13-fb17"

def changesWhenCasemapped : CodeSet := CaseFolding.accompanied ∪ foldlessChanging

def changesWhenLowercased : CodeSet := changesWhenCasemapped ∩ (uppercase ∪ titlecase)

def changesWhenUppercased : CodeSet :=
  (changesWhenCasemapped \ changesWhenLowercased) ∪ titlecase

/-- Upper-case digraphs, which have a title-case form of their own. -/
def titlecaseOfUppercase : CodeSet := .ofText
  "1c4 1c7 1ca 1f1"

/-- Georgian letters whose upper-case forms are no title-case forms. -/
def titlecaseUnchanged : CodeSet := .ofText
  "10d0-10fa 10fd-10ff"

def changesWhenTitlecased : CodeSet :=
  (changesWhenUppercased \ (titlecase ∪ titlecaseUnchanged)) ∪ titlecaseOfUppercase

/-- Code points of a case orbit that folding sends the whole orbit to, or leaves alone. -/
def foldTargets : CodeSet := .ofText
  "61-7a e0-f6 f8-ff 101 103 105 107 109 10b 10d 10f 111 113 115 117 119 11b 11d 11f 121 123
  125 127 129 12b 12d 12f 133 135 137 13a 13c 13e 140 142 144 146 148 14b 14d 14f 151 153 155
  157 159 15b 15d 15f 161 163 165 167 169 16b 16d 16f 171 173 175 177 17a 17c 17e 180 183 185
  188 18c 192 195 199-19b 19e 1a1 1a3 1a5 1a8 1ad 1b0 1b4 1b6 1b9 1bd 1bf 1c6 1c9 1cc 1ce 1d0
  1d2 1d4 1d6 1d8 1da 1dc-1dd 1df 1e1 1e3 1e5 1e7 1e9 1eb 1ed 1ef 1f3 1f5 1f9 1fb 1fd 1ff 201
  203 205 207 209 20b 20d 20f 211 213 215 217 219 21b 21d 21f 223 225 227 229 22b 22d 22f 231
  233 23c 23f-240 242 247 249 24b 24d 24f-254 256-257 259 25b-25c 260-261 263-266 268-26c 26f
  271-272 275 27d 280 282-283 287-28c 292 29d-29e 371 373 377 37b-37d 390 3ac-3c1 3c3-3ce 3d7
  3d9 3db 3dd 3df 3e1 3e3 3e5 3e7 3e9 3eb 3ed 3ef 3f2-3f3 3f8 3fb 430-45f 461 463 465 467 469
  46b 46d 46f 471 473 475 477 479 47b 47d 47f 481 48b 48d 48f 491 493 495 497 499 49b 49d 49f
  4a1 4a3 4a5 4a7 4a9 4ab 4ad 4af 4b1 4b3 4b5 4b7 4b9 4bb 4bd 4bf 4c2 4c4 4c6 4c8 4ca 4cc
  4ce-4cf 4d1 4d3 4d5 4d7 4d9 4db 4dd 4df 4e1 4e3 4e5 4e7 4e9 4eb 4ed 4ef 4f1 4f3 4f5 4f7 4f9
  4fb 4fd 4ff 501 503 505 507 509 50b 50d 50f 511 513 515 517 519 51b 51d 51f 521 523 525 527
  529 52b 52d 52f 561-586 10d0-10fa 10fd-10ff 13a0-13f5 1c8a 1d79 1d7d 1d8e 1e01 1e03 1e05
  1e07 1e09 1e0b 1e0d 1e0f 1e11 1e13 1e15 1e17 1e19 1e1b 1e1d 1e1f 1e21 1e23 1e25 1e27 1e29
  1e2b 1e2d 1e2f 1e31 1e33 1e35 1e37 1e39 1e3b 1e3d 1e3f 1e41 1e43 1e45 1e47 1e49 1e4b 1e4d
  1e4f 1e51 1e53 1e55 1e57 1e59 1e5b 1e5d 1e5f 1e61 1e63 1e65 1e67 1e69 1e6b 1e6d 1e6f 1e71
  1e73 1e75 1e77 1e79 1e7b 1e7d 1e7f 1e81 1e83 1e85 1e87 1e89 1e8b 1e8d 1e8f 1e91 1e93 1e95
  1ea1 1ea3 1ea5 1ea7 1ea9 1eab 1ead 1eaf 1eb1 1eb3 1eb5 1eb7 1eb9 1ebb 1ebd 1ebf 1ec1 1ec3
  1ec5 1ec7 1ec9 1ecb 1ecd 1ecf 1ed1 1ed3 1ed5 1ed7 1ed9 1edb 1edd 1edf 1ee1 1ee3 1ee5 1ee7
  1ee9 1eeb 1eed 1eef 1ef1 1ef3 1ef5 1ef7 1ef9 1efb 1efd 1eff-1f07 1f10-1f15 1f20-1f27
  1f30-1f37 1f40-1f45 1f51 1f53 1f55 1f57 1f60-1f67 1f70-1f7d 1fb0-1fb1 1fbe 1fd0-1fd1 1fd3
  1fe0-1fe1 1fe3 1fe5 214e 2170-217f 2184 24d0-24e9 2c30-2c5f 2c61 2c65-2c66 2c68 2c6a 2c6c
  2c73 2c76 2c81 2c83 2c85 2c87 2c89 2c8b 2c8d 2c8f 2c91 2c93 2c95 2c97 2c99 2c9b 2c9d 2c9f
  2ca1 2ca3 2ca5 2ca7 2ca9 2cab 2cad 2caf 2cb1 2cb3 2cb5 2cb7 2cb9 2cbb 2cbd 2cbf 2cc1 2cc3
  2cc5 2cc7 2cc9 2ccb 2ccd 2ccf 2cd1 2cd3 2cd5 2cd7 2cd9 2cdb 2cdd 2cdf 2ce1 2ce3 2cec 2cee
  2cf3 2d00-2d25 2d27 2d2d a641 a643 a645 a647 a649 a64b a64d a64f a651 a653 a655 a657 a659
  a65b a65d a65f a661 a663 a665 a667 a669 a66b a66d a681 a683 a685 a687 a689 a68b a68d a68f
  a691 a693 a695 a697 a699 a69b a723 a725 a727 a729 a72b a72d a72f a733 a735 a737 a739 a73b
  a73d a73f a741 a743 a745 a747 a749 a74b a74d a74f a751 a753 a755 a757 a759 a75b a75d a75f
  a761 a763 a765 a767 a769 a76b a76d a76f a77a a77c a77f a781 a783 a785 a787 a78c a791
  a793-a794 a797 a799 a79b a79d a79f a7a1 a7a3 a7a5 a7a7 a7a9 a7b5 a7b7 a7b9 a7bb a7bd a7bf
  a7c1 a7c3 a7c8 a7ca a7cd a7d1 a7d7 a7d9 a7db a7f6 ab53 ff41-ff5a 10428-1044f 104d8-104fb
  10597-105a1 105a3-105b1 105b3-105b9 105bb-105bc 10cc0-10cf2 10d70-10d85 118c0-118df
  16e60-16e7f 1e922-1e943"

/-- Code points that only full folding changes: they fold to more than one. -/
def foldedToMany : CodeSet := .ofText
  "130 149 587 1e9a 1fb2 1fb4 1fb7 1fc2 1fc4 1fc7 1ff2 1ff4 1ff7 fb00-fb04 fb13-fb17"

def changesWhenCasefolded : CodeSet := (CaseFolding.accompanied \ foldTargets) ∪ foldedToMany

/-- Marks that join the parts of a word or number: periods, colons, apostrophes. -/
def midWordMarks : CodeSet := .ofText
  "27 2e 3a b7 387 55f 5f4 2018-2019 2024 2027 fe13 fe52 fe55 ff07 ff0e ff1a"

def caseIgnorable : CodeSet :=
  Category.among [.nonspacingMark, .enclosingMark, .format, .modifierLetter, .modifierSymbol] ∪
    midWordMarks

/-- Letters with a dot that an accent above replaces. -/
def softDotted : CodeSet := .ofText
  "69-6a 12f 249 268 29d 2b2 3f3 456 458 1d62 1d96 1da4 1da8 1e2d 1ecb 2071 2148-2149 2c7c
  1d422-1d423 1d456-1d457 1d48a-1d48b 1d4be-1d4bf 1d4f2-1d4f3 1d526-1d527 1d55a-1d55b
  1d58e-1d58f 1d5c2-1d5c3 1d5f6-1d5f7 1d62a-1d62b 1d65e-1d65f 1d692-1d693 1df1a 1e04c-1e04d
  1e068"

/-! ### Identifiers and patterns -/

/-- Code points that are no letters but may begin an identifier. -/
def otherIdStart : CodeSet := .ofText
  "1885-1886 2118 212e 309b-309c"

/-- Code points kept for the syntax of patterns. -/
def patternSyntax : CodeSet := .ofText
  "21-2f 3a-40 5b-5e 60 7b-7e a1-a7 a9 ab-ac ae b0-b1 b6 bb bf d7 f7 2010-2027 2030-203e
  2041-2053 2055-205e 2190-245f 2500-2775 2794-2bff 2e00-2e7f 3001-3003 3008-3020 3030
  fd3e-fd3f fe45-fe46"

/-- Code points kept for white space in patterns. -/
def patternWhiteSpace : CodeSet := .ofText
  "9-d 20 85 200e-200f 2028-2029"

def idStart : CodeSet :=
  (Category.codes (·.isLetter) ∪ Category.among [.letterNumber] ∪ otherIdStart) \
    (patternSyntax ∪ patternWhiteSpace)

/-- Code points of other kinds that may stand inside an identifier. -/
def otherIdContinue : CodeSet := .ofText
  "b7 387 1369-1371 19da 200c-200d 30fb ff65"

def idContinue : CodeSet :=
  idStart ∪ otherIdContinue ∪
    Category.among [.nonspacingMark, .spacingMark, .decimalNumber, .connectorPunctuation]

/-- Identifier code points whose compatibility form may not begin an identifier. -/
def normalizedAway : CodeSet := .ofText
  "37a e33 eb3 309b-309c fc5e-fc63 fdfa-fdfb fe70 fe72 fe74 fe76 fe78 fe7a fe7c fe7e ff9e-ff9f"

/-- Identifier code points whose compatibility form may not stand inside one. -/
def normalizedOut : CodeSet := .ofText
  "37a 309b-309c fc5e-fc63 fdfa-fdfb fe70 fe72 fe74 fe76 fe78 fe7a fe7c fe7e"

def xidStart : CodeSet := idStart \ normalizedAway

def xidContinue : CodeSet := idContinue \ normalizedOut

/-- Mathematical code points that some profiles let begin an identifier. -/
def idCompatMathStart : CodeSet := .ofText
  "2202 2207 221e 1d6c1 1d6db 1d6fb 1d715 1d735 1d74f 1d76f 1d789 1d7a9 1d7c3"

/-- Mathematical code points that some profiles let stand inside an identifier. -/
def idCompatMathContinue : CodeSet := .ofText
  "b2-b3 b9 2070 2074-207e 2080-208e 2202 2207 221e 1d6c1 1d6db 1d6fb 1d715 1d735 1d74f 1d76f
  1d789 1d7a9 1d7c3"

/-! ### Marks, spaces and controls -/

/-- White space of every kind. -/
def whiteSpace : CodeSet := .ofText
  "9-d 20 85 a0 1680 2000-200a 2028-2029 202f 205f 3000"

/-- The joiner and the non-joiner. -/
def joinControl : CodeSet := .ofText
  "200c-200d"

/-- Controls of writing direction. -/
def bidiControl : CodeSet := .ofText
  "61c 200e-200f 202a-202e 2066-2069"

/-- Code points whose sign is mirrored in text that runs from right to left. -/
def bidiMirrored : CodeSet := .ofText
  "28-29 3c 3e 5b 5d 7b 7d ab bb f3a-f3d 169b-169c 2039-203a 2045-2046 207d-207e 208d-208e 2140
  2201-2204 2208-220d 2211 2215-2216 221a-221d 221f-2222 2224 2226 222b-2233 2239 223b-224c
  2252-2255 225f-2260 2262 2264-226b 226d-228c 228f-2292 2298 22a2-22a3 22a6-22b8 22be-22bf
  22c9-22cd 22d0-22d1 22d6-22ed 22f0-22ff 2308-230b 2320-2321 2329-232a 2768-2775 27c0
  27c3-27c6 27c8-27c9 27cb-27cd 27d3-27d6 27dc-27de 27e2-27ef 2983-2998 299b-29a0 29a2-29af
  29b8 29c0-29c5 29c9 29ce-29d2 29d4-29d5 29d8-29dc 29e1 29e3-29e5 29e8-29e9 29f4-29f9
  29fc-29fd 2a0a-2a1c 2a1e-2a21 2a24 2a26 2a29 2a2b-2a2e 2a34-2a35 2a3c-2a3e 2a57-2a58
  2a64-2a65 2a6a-2a6d 2a6f-2a70 2a73-2a74 2a79-2aa3 2aa6-2aad 2aaf-2ad6 2adc 2ade 2ae2-2ae6
  2aec-2aee 2af3 2af7-2afb 2afd 2bfe 2e02-2e05 2e09-2e0a 2e0c-2e0d 2e1c-2e1d 2e20-2e29
  2e55-2e5c 3008-3011 3014-301b fe59-fe5e fe64-fe65 ff08-ff09 ff1c ff1e ff3b ff3d ff5b ff5d
  ff5f-ff60 ff62-ff63 1d6db 1d715 1d74f 1d789 1d7c3"

/-- Selectors of a variant of the sign before them. -/
def variationSelector : CodeSet := .ofText
  "180b-180d 180f fe00-fe0f e0100-e01ef"

/-- Format marks that stand before the digits they enclose. -/
def prependedMark : CodeSet := .ofText
  "600-605 6dd 70f 890-891 8e2 110bd 110cd"

/-- Code points that are never characters. -/
def noncharacter : CodeSet := .ofText
  "fdd0-fdef fffe-ffff 1fffe-1ffff 2fffe-2ffff 3fffe-3ffff 4fffe-4ffff 5fffe-5ffff 6fffe-6ffff
  7fffe-7ffff 8fffe-8ffff 9fffe-9ffff afffe-affff bfffe-bffff cfffe-cffff dfffe-dffff
  efffe-effff ffffe-fffff 10fffe-10ffff"

/-- Code points whose use is discouraged. -/
def deprecated : CodeSet := .ofText
  "149 673 f77 f79 17a3-17a4 206a-206f 2329-232a e0001"

/-- Ignorable code points that are no format marks or variation selectors. -/
def otherDefaultIgnorable : CodeSet := .ofText
  "34f 115f-1160 17b4-17b5 2065 3164 ffa0 fff0-fff8 e0000 e0002-e001f e0080-e00ff e01f0-e0fff"

/-- Format marks that are not ignored where they have no sign. -/
def visibleFormat : CodeSet := .ofText
  "600-605 6dd 70f 890-891 8e2 fff9-fffb 110bd 110cd 13430-1343f"

def defaultIgnorable : CodeSet :=
  (Category.among [.format] \ visibleFormat) ∪ variationSelector ∪ otherDefaultIgnorable

/-- Code points that extend the sign before them but are no marks without width. -/
def otherGraphemeExtend : CodeSet := .ofText
  "9be 9d7 b3e b57 bbe bd7 cc0 cc2 cc7-cc8 cca-ccb cd5-cd6 d3e d57 dcf ddf 1715 1734 1b35 1b3b
  1b3d 1b43-1b44 1baa 1bf2-1bf3 200c 302e-302f a953 a9c0 ff9e-ff9f 111c0 11235 1133e 1134d
  11357 113b8 113c2 113c5 113c7-113c9 113cf 114b0 114bd 115af 116b6 11930 1193d 11f41
  16ff0-16ff1 1d165-1d166 1d16d-1d172 e0020-e007f"

def graphemeExtend : CodeSet :=
  Category.among [.nonspacingMark, .enclosingMark] ∪ otherGraphemeExtend

def graphemeBase : CodeSet :=
  Category.codes (fun k => !(k.isOther || k == .lineSeparator || k == .paragraphSeparator)) \
    graphemeExtend

/-- Signs that join the consonants around them. -/
def graphemeLink : CodeSet := .ofText
  "94d 9cd a4d acd b4d bcd c4d ccd d3b-d3c d4d dca e3a eba f84 1039-103a 1714-1715 1734 17d2
  1a60 1b44 1baa-1bab 1bf2-1bf3 2d7f a806 a82c a8c4 a953 a9c0 aaf6 abed 10a3f 11046 11070
  1107f 110b9 11133-11134 111c0 11235 112ea 1134d 113ce-113d0 11442 114c2 115bf 1163f 116b6
  1172b 11839 1193d-1193e 119e0 11a34 11a47 11a99 11c3f 11d44-11d45 11d97 11f41-11f42 1612f"

/-- Arabic marks that are placed before others when signs are stacked. -/
def modifierCombiningMark : CodeSet := .ofText
  "654-655 658 6dc 6e3 6e7-6e8 8ca-8cb 8cd-8cf 8d3 8f3"

/-- Marks that change the value of the sign before them. -/
def diacritic : CodeSet := .ofText
  "5e 60 a8 af b4 b7-b8 2b0-34e 350-357 35d-362 374-375 37a 384-385 483-487 559 591-5a1 5a3-5bd
  5bf 5c1-5c2 5c4 64b-652 657-658 6df-6e0 6e5-6e6 6ea-6ec 730-74a 7a6-7b0 7eb-7f5 818-819
  898-89f 8c9-8d2 8e3-8fe 93c 94d 951-954 971 9bc 9cd a3c a4d abc acd afd-aff b3c b4d b55 bcd
  c3c c4d cbc ccd d3b-d3c d4d dca e3a e47-e4c e4e eba ec8-ecc f18-f19 f35 f37 f39 f3e-f3f
  f82-f84 f86-f87 fc6 1037 1039-103a 1063-1064 1069-106d 1087-108d 108f 109a-109b 135d-135f
  1714-1715 1734 17c9-17d3 17dd 1939-193b 1a60 1a75-1a7c 1a7f 1ab0-1abe 1ac1-1acb 1b34 1b44
  1b6b-1b73 1baa-1bab 1be6 1bf2-1bf3 1c36-1c37 1c78-1c7d 1cd0-1ce8 1ced 1cf4 1cf7-1cf9
  1d2c-1d6a 1dc4-1dcf 1df5-1dff 1fbd 1fbf-1fc1 1fcd-1fcf 1fdd-1fdf 1fed-1fef 1ffd-1ffe
  2cef-2cf1 2e2f 302a-302f 3099-309c 30fc a66f a67c-a67d a67f a69c-a69d a6f0-a6f1 a700-a721
  a788-a78a a7f8-a7f9 a806 a82c a8c4 a8e0-a8f1 a92b-a92e a953 a9b3 a9c0 a9e5 aa7b-aa7d
  aabf-aac2 aaf6 ab5b-ab5f ab69-ab6b abec-abed fb1e fe20-fe2f ff3e ff40 ff70 ff9e-ff9f ffe3
  102e0 10780-10785 10787-107b0 107b2-107ba 10a38-10a3a 10a3f 10ae5-10ae6 10d22-10d27 10d4e
  10d69-10d6d 10efd-10eff 10f46-10f50 10f82-10f85 11046 11070 110b9-110ba 11133-11134 11173
  111c0 111ca-111cc 11235-11236 112e9-112ea 1133b-1133c 1134d 11366-1136c 11370-11374
  113ce-113d0 113d2-113d3 113e1-113e2 11442 11446 114c2-114c3 115bf-115c0 1163f 116b6-116b7
  1172b 11839-1183a 1193d-1193e 11943 119e0 11a34 11a47 11a99 11c3f 11d42 11d44-11d45 11d97
  11f41-11f42 11f5a 13447-13455 1612f 16af0-16af4 16b30-16b36 16d6b-16d6c 16f8f-16f9f
  16ff0-16ff1 1aff0-1aff3 1aff5-1affb 1affd-1affe 1cf00-1cf2d 1cf30-1cf46 1d167-1d169
  1d16d-1d172 1d17b-1d182 1d185-1d18b 1d1aa-1d1ad 1e030-1e06d 1e130-1e136 1e2ae 1e2ec-1e2ef
  1e5ee-1e5ef 1e8d0-1e8d6 1e944-1e946 1e948-1e94a"

/-- Marks that lengthen or repeat the sign before them. -/
def extender : CodeSet := .ofText
  "b7 2d0-2d1 640 7fa a71 afb b55 e46 ec6 180a 1843 1aa7 1c36 1c7b 3005 3031-3035 309d-309e
  30fc-30fe a015 a60c a9cf a9e6 aa70 aadd aaf3-aaf4 ff70 10781-10782 10d4e 10d6a 10d6f 11237
  1135d 113d2-113d3 115c6-115c8 11a98 16b42-16b43 16fe0-16fe1 16fe3 1e13c-1e13d 1e5ef
  1e944-1e946"

/-- Vowel signs that are written before the consonant they follow in speech. -/
def logicalOrderException : CodeSet := .ofText
  "e40-e44 ec0-ec4 19b5-19b7 19ba aab5-aab6 aab9 aabb-aabc"

/-! ### Digits, symbols and punctuation -/

/-- Hexadecimal digits in ASCII. -/
def asciiHexDigit : CodeSet := .ofText
  "30-39 41-46 61-66"

/-- Hexadecimal digits. -/
def hexDigit : CodeSet := .ofText
  "30-39 41-46 61-66 ff10-ff19 ff21-ff26 ff41-ff46"

/-- Mathematical code points that are no mathematical symbols. -/
def otherMath : CodeSet := .ofText
  "5e 3d0-3d2 3d5 3f0-3f1 3f4-3f5 2016 2032-2034 2040 2061-2064 207d-207e 208d-208e 20d0-20dc
  20e1 20e5-20e6 20eb-20ef 2102 2107 210a-2113 2115 2119-211d 2124 2128-2129 212c-212d
  212f-2131 2133-2138 213c-213f 2145-2149 2195-2199 219c-219f 21a1-21a2 21a4-21a5 21a7
  21a9-21ad 21b0-21b1 21b6-21b7 21bc-21cd 21d0-21d1 21d3 21d5-21db 21dd 21e4-21e5 2308-230b
  23b4-23b5 23b7 23d0 23e2 25a0-25a1 25ae-25b6 25bc-25c0 25c6-25c7 25ca-25cb 25cf-25d3 25e2
  25e4 25e7-25ec 2605-2606 2640 2642 2660-2663 266d-266e 27c5-27c6 27e6-27ef 2983-2998
  29d8-29db 29fc-29fd fe61 fe63 fe68 ff3c ff3e 1d400-1d454 1d456-1d49c 1d49e-1d49f 1d4a2
  1d4a5-1d4a6 1d4a9-1d4ac 1d4ae-1d4b9 1d4bb 1d4bd-1d4c3 1d4c5-1d505 1d507-1d50a 1d50d-1d514
  1d516-1d51c 1d51e-1d539 1d53b-1d53e 1d540-1d544 1d546 1d54a-1d550 1d552-1d6a5 1d6a8-1d6c0
  1d6c2-1d6da 1d6dc-1d6fa 1d6fc-1d714 1d716-1d734 1d736-1d74e 1d750-1d76e 1d770-1d788
  1d78a-1d7a8 1d7aa-1d7c2 1d7c4-1d7cb 1d7ce-1d7ff 1ee00-1ee03 1ee05-1ee1f 1ee21-1ee22 1ee24
  1ee27 1ee29-1ee32 1ee34-1ee37 1ee39 1ee3b 1ee42 1ee47 1ee49 1ee4b 1ee4d-1ee4f 1ee51-1ee52
  1ee54 1ee57 1ee59 1ee5b 1ee5d 1ee5f 1ee61-1ee62 1ee64 1ee67-1ee6a 1ee6c-1ee72 1ee74-1ee77
  1ee79-1ee7c 1ee7e 1ee80-1ee89 1ee8b-1ee9b 1eea1-1eea3 1eea5-1eea9 1eeab-1eebb"

def math : CodeSet := Category.among [.mathSymbol] ∪ otherMath

/-- Dashes that are no dash punctuation. -/
def otherDash : CodeSet := .ofText
  "2053 207b 208b 2212"

def dash : CodeSet := Category.among [.dashPunctuation] ∪ otherDash

/-- Hyphens. -/
def hyphen : CodeSet := .ofText
  "2d ad 58a 1806 2010-2011 2e17 30fb fe63 ff0d ff65"

/-- Quotation marks. -/
def quotationMark : CodeSet := .ofText
  "22 27 ab bb 2018-201f 2039-203a 2e42 300c-300f 301d-301f fe41-fe44 ff02 ff07 ff62-ff63"

/-- Punctuation that ends a phrase or sentence. -/
def terminalPunctuation : CodeSet := .ofText
  "21 2c 2e 3a-3b 3f 37e 387 589 5c3 60c 61b 61d-61f 6d4 700-70a 70c 7f8-7f9 830-835 837-83e
  85e 964-965 e5a-e5b f08 f0d-f12 104a-104b 1361-1368 166e 16eb-16ed 1735-1736 17d4-17d6 17da
  1802-1805 1808-1809 1944-1945 1aa8-1aab 1b4e-1b4f 1b5a-1b5b 1b5d-1b5f 1b7d-1b7f 1c3b-1c3f
  1c7e-1c7f 2024 203c-203d 2047-2049 2cf9-2cfb 2e2e 2e3c 2e41 2e4c 2e4e-2e4f 2e53-2e54
  3001-3002 a4fe-a4ff a60d-a60f a6f3-a6f7 a876-a877 a8ce-a8cf a92f a9c7-a9c9 aa5d-aa5f aadf
  aaf0-aaf1 abeb fe12 fe15-fe16 fe50-fe52 fe54-fe57 ff01 ff0c ff0e ff1a-ff1b ff1f ff61 ff64
  1039f 103d0 10857 1091f 10a56-10a57 10af0-10af5 10b3a-10b3f 10b99-10b9c 10f55-10f59
  10f86-10f89 11047-1104d 110be-110c1 11141-11143 111c5-111c6 111cd 111de-111df 11238-1123c
  112a9 113d4-113d5 1144b-1144d 1145a-1145b 115c2-115c5 115c9-115d7 11641-11642 1173c-1173e
  11944 11946 11a42-11a43 11a9b-11a9c 11aa1-11aa2 11c41-11c43 11c71 11ef7-11ef8 11f43-11f44
  12470-12474 16a6e-16a6f 16af5 16b37-16b39 16b44 16d6e-16d6f 16e97-16e98 1bc9f 1da87-1da8a"

/-- Punctuation that ends a sentence. -/
def sentenceTerminal : CodeSet := .ofText
  "21 2e 3f 589 61d-61f 6d4 700-702 7f9 837 839 83d-83e 964-965 104a-104b 1362 1367-1368 166e
  1735-1736 17d4-17d5 1803 1809 1944-1945 1aa8-1aab 1b4e-1b4f 1b5a-1b5b 1b5e-1b5f 1b7d-1b7f
  1c3b-1c3c 1c7e-1c7f 2024 203c-203d 2047-2049 2cf9-2cfb 2e2e 2e3c 2e53-2e54 3002 a4ff
  a60e-a60f a6f3 a6f7 a876-a877 a8ce-a8cf a92f a9c8-a9c9 aa5d-aa5f aaf0-aaf1 abeb fe12
  fe15-fe16 fe52 fe56-fe57 ff01 ff0e ff1f ff61 10a56-10a57 10f55-10f59 10f86-10f89 11047-11048
  110be-110c1 11141-11143 111c5-111c6 111cd 111de-111df 11238-11239 1123b-1123c 112a9
  113d4-113d5 1144b-1144c 115c2-115c3 115c9-115d7 11641-11642 1173c-1173e 11944 11946
  11a42-11a43 11a9b-11a9c 11c41-11c42 11ef7-11ef8 11f43-11f44 16a6e-16a6f 16af5 16b37-16b38
  16b44 16d6e-16d6f 16e98 1bc9f 1da88"

/-- Radicals of ideographs. -/
def radical : CodeSet := .ofText
  "2e80-2e99 2e9b-2ef3 2f00-2fd5"

/-- Ideographs. -/
def ideographic : CodeSet := .ofText
  "3006-3007 3021-3029 3038-303a 3400-4dbf 4e00-9fff f900-fa6d fa70-fad9 16fe4 17000-187f7
  18800-18cd5 18cff-18d08 1b170-1b2fb 20000-2a6df 2a700-2b739 2b740-2b81d 2b820-2cea1
  2ceb0-2ebe0 2ebf0-2ee5d 2f800-2fa1d 30000-3134a 31350-323af"

/-- Ideographs that are unified across languages. -/
def unifiedIdeograph : CodeSet := .ofText
  "3400-4dbf 4e00-9fff fa0e-fa0f fa11 fa13-fa14 fa1f fa21 fa23-fa24 fa27-fa29 20000-2a6df
  2a700-2b739 2b740-2b81d 2b820-2cea1 2ceb0-2ebe0 2ebf0-2ee5d 30000-3134a 31350-323af"

/-- Operators that describe an ideograph by one part. -/
def idsUnary : CodeSet := .ofText
  "2ffe-2fff"

/-- Operators that describe an ideograph by two parts. -/
def idsBinary : CodeSet := .ofText
  "2ff0-2ff1 2ff4-2ffd 31ef"

/-- Operators that describe an ideograph by three parts. -/
def idsTrinary : CodeSet := .ofText
  "2ff2-2ff3"

/-- Letters of which two stand for a flag. -/
def regionalIndicator : CodeSet := .ofText
  "1f1e6-1f1ff"

/-- Code points with a picture form. -/
def emoji : CodeSet := .ofText
  "23 2a 30-39 a9 ae 203c 2049 2122 2139 2194-2199 21a9-21aa 231a-231b 2328 23cf 23e9-23f3
  23f8-23fa 24c2 25aa-25ab 25b6 25c0 25fb-25fe 2600-2604 260e 2611 2614-2615 2618 261d 2620
  2622-2623 2626 262a 262e-262f 2638-263a 2640 2642 2648-2653 265f-2660 2663 2665-2666 2668
  267b 267e-267f 2692-2697 2699 269b-269c 26a0-26a1 26a7 26aa-26ab 26b0-26b1 26bd-26be
  26c4-26c5 26c8 26ce-26cf 26d1 26d3-26d4 26e9-26ea 26f0-26f5 26f7-26fa 26fd 2702 2705
  2708-270d 270f 2712 2714 2716 271d 2721 2728 2733-2734 2744 2747 274c 274e 2753-2755 2757
  2763-2764 2795-2797 27a1 27b0 27bf 2934-2935 2b05-2b07 2b1b-2b1c 2b50 2b55 3030 303d 3297
  3299 1f004 1f0cf 1f170-1f171 1f17e-1f17f 1f18e 1f191-1f19a 1f1e6-1f1ff 1f201-1f202 1f21a
  1f22f 1f232-1f23a 1f250-1f251 1f300-1f321 1f324-1f393 1f396-1f397 1f399-1f39b 1f39e-1f3f0
  1f3f3-1f3f5 1f3f7-1f4fd 1f4ff-1f53d 1f549-1f54e 1f550-1f567 1f56f-1f570 1f573-1f57a 1f587
  1f58a-1f58d 1f590 1f595-1f596 1f5a4-1f5a5 1f5a8 1f5b1-1f5b2 1f5bc 1f5c2-1f5c4 1f5d1-1f5d3
  1f5dc-1f5de 1f5e1 1f5e3 1f5e8 1f5ef 1f5f3 1f5fa-1f64f 1f680-1f6c5 1f6cb-1f6d2 1f6d5-1f6d7
  1f6dc-1f6e5 1f6e9 1f6eb-1f6ec 1f6f0 1f6f3-1f6fc 1f7e0-1f7eb 1f7f0 1f90c-1f93a 1f93c-1f945
  1f947-1f9ff 1fa70-1fa7c 1fa80-1fa89 1fa8f-1fac6 1face-1fadc 1fadf-1fae9 1faf0-1faf8"

/-- Code points that are shown as pictures unless told otherwise. -/
def emojiPresentation : CodeSet := .ofText
  "231a-231b 23e9-23ec 23f0 23f3 25fd-25fe 2614-2615 2648-2653 267f 2693 26a1 26aa-26ab
  26bd-26be 26c4-26c5 26ce 26d4 26ea 26f2-26f3 26f5 26fa 26fd 2705 270a-270b 2728 274c 274e
  2753-2755 2757 2795-2797 27b0 27bf 2b1b-2b1c 2b50 2b55 1f004 1f0cf 1f18e 1f191-1f19a
  1f1e6-1f1ff 1f201 1f21a 1f22f 1f232-1f236 1f238-1f23a 1f250-1f251 1f300-1f320 1f32d-1f335
  1f337-1f37c 1f37e-1f393 1f3a0-1f3ca 1f3cf-1f3d3 1f3e0-1f3f0 1f3f4 1f3f8-1f43e 1f440
  1f442-1f4fc 1f4ff-1f53d 1f54b-1f54e 1f550-1f567 1f57a 1f595-1f596 1f5a4 1f5fb-1f64f
  1f680-1f6c5 1f6cc 1f6d0-1f6d2 1f6d5-1f6d7 1f6dc-1f6df 1f6eb-1f6ec 1f6f4-1f6fc 1f7e0-1f7eb
  1f7f0 1f90c-1f93a 1f93c-1f945 1f947-1f9ff 1fa70-1fa7c 1fa80-1fa89 1fa8f-1fac6 1face-1fadc
  1fadf-1fae9 1faf0-1faf8"

/-- Skin tones. -/
def emojiModifier : CodeSet := .ofText
  "1f3fb-1f3ff"

/-- Pictures that take a skin tone. -/
def emojiModifierBase : CodeSet := .ofText
  "261d 26f9 270a-270d 1f385 1f3c2-1f3c4 1f3c7 1f3ca-1f3cc 1f442-1f443 1f446-1f450 1f466-1f478
  1f47c 1f481-1f483 1f485-1f487 1f48f 1f491 1f4aa 1f574-1f575 1f57a 1f590 1f595-1f596
  1f645-1f647 1f64b-1f64f 1f6a3 1f6b4-1f6b6 1f6c0 1f6cc 1f90c 1f90f 1f918-1f91f 1f926
  1f930-1f939 1f93c-1f93e 1f977 1f9b5-1f9b6 1f9b8-1f9b9 1f9bb 1f9cd-1f9cf 1f9d1-1f9dd
  1fac3-1fac5 1faf0-1faf8"

/-- Code points that sequences of pictures are made of. -/
def emojiComponent : CodeSet := .ofText
  "23 2a 30-39 200d 20e3 fe0f 1f1e6-1f1ff 1f3fb-1f3ff 1f9b0-1f9b3 e0020-e007f"

/-- Pictures, and code points kept for pictures to come. -/
def extendedPictographic : CodeSet := .ofText
  "a9 ae 203c 2049 2122 2139 2194-2199 21a9-21aa 231a-231b 2328 2388 23cf 23e9-23f3 23f8-23fa
  24c2 25aa-25ab 25b6 25c0 25fb-25fe 2600-2605 2607-2612 2614-2685 2690-2705 2708-2712 2714
  2716 271d 2721 2728 2733-2734 2744 2747 274c 274e 2753-2755 2757 2763-2767 2795-2797 27a1
  27b0 27bf 2934-2935 2b05-2b07 2b1b-2b1c 2b50 2b55 3030 303d 3297 3299 1f000-1f0ff
  1f10d-1f10f 1f12f 1f16c-1f171 1f17e-1f17f 1f18e 1f191-1f19a 1f1ad-1f1e5 1f201-1f20f 1f21a
  1f22f 1f232-1f23a 1f23c-1f23f 1f249-1f3fa 1f400-1f53d 1f546-1f64f 1f680-1f6ff 1f774-1f77f
  1f7d5-1f7ff 1f80c-1f80f 1f848-1f84f 1f85a-1f85f 1f888-1f88f 1f8ae-1f8ff 1f90c-1f93a
  1f93c-1f945 1f947-1faff 1fc00-1fffd"

/-! ### By name -/

/-- The names of every binary property, and the code points that have it. -/
def byName : List (List String × CodeSet) :=
  [(["AHex", "ASCII_Hex_Digit"], asciiHexDigit),
    (["Alpha", "Alphabetic"], alphabetic),
    (["Bidi_C", "Bidi_Control"], bidiControl),
    (["Bidi_M", "Bidi_Mirrored"], bidiMirrored),
    (["CI", "Case_Ignorable"], caseIgnorable),
    (["Cased", "Cased"], cased),
    (["CWCF", "Changes_When_Casefolded"], changesWhenCasefolded),
    (["CWCM", "Changes_When_Casemapped"], changesWhenCasemapped),
    (["CWL", "Changes_When_Lowercased"], changesWhenLowercased),
    (["CWT", "Changes_When_Titlecased"], changesWhenTitlecased),
    (["CWU", "Changes_When_Uppercased"], changesWhenUppercased),
    (["Dash", "Dash"], dash),
    (["DI", "Default_Ignorable_Code_Point"], defaultIgnorable),
    (["Dep", "Deprecated"], deprecated),
    (["Dia", "Diacritic"], diacritic),
    (["Emoji", "Emoji"], emoji),
    (["EComp", "Emoji_Component"], emojiComponent),
    (["EMod", "Emoji_Modifier"], emojiModifier),
    (["EBase", "Emoji_Modifier_Base"], emojiModifierBase),
    (["EPres", "Emoji_Presentation"], emojiPresentation),
    (["ExtPict", "Extended_Pictographic"], extendedPictographic),
    (["Ext", "Extender"], extender),
    (["Gr_Base", "Grapheme_Base"], graphemeBase),
    (["Gr_Ext", "Grapheme_Extend"], graphemeExtend),
    (["Hex", "Hex_Digit"], hexDigit),
    (["Hyphen", "Hyphen"], hyphen),
    (["IDSU", "IDS_Unary_Operator"], idsUnary),
    (["IDSB", "IDS_Binary_Operator"], idsBinary),
    (["IDST", "IDS_Trinary_Operator"], idsTrinary),
    (["IDC", "ID_Continue"], idContinue),
    (["IDS", "ID_Start"], idStart),
    (["Ideo", "Ideographic"], ideographic),
    (["Join_C", "Join_Control"], joinControl),
    (["LOE", "Logical_Order_Exception"], logicalOrderException),
    (["Lower", "Lowercase"], lowercase),
    (["Math", "Math"], math),
    (["MCM", "Modifier_Combining_Mark"], modifierCombiningMark),
    (["NChar", "Noncharacter_Code_Point"], noncharacter),
    (["Pat_Syn", "Pattern_Syntax"], patternSyntax),
    (["Pat_WS", "Pattern_White_Space"], patternWhiteSpace),
    (["PCM", "Prepended_Concatenation_Mark"], prependedMark),
    (["QMark", "Quotation_Mark"], quotationMark),
    (["Radical", "Radical"], radical),
    (["RI", "Regional_Indicator"], regionalIndicator),
    (["STerm", "Sentence_Terminal"], sentenceTerminal),
    (["SD", "Soft_Dotted"], softDotted),
    (["Term", "Terminal_Punctuation"], terminalPunctuation),
    (["UIdeo", "Unified_Ideograph"], unifiedIdeograph),
    (["Upper", "Uppercase"], uppercase),
    (["VS", "Variation_Selector"], variationSelector),
    (["WSpace", "White_Space", "Space"], whiteSpace),
    (["XIDC", "XID_Continue"], xidContinue),
    (["XIDS", "XID_Start"], xidStart),
    (["Gr_Link", "Grapheme_Link"], graphemeLink),
    (["ID_Compat_Math_Start"], idCompatMathStart),
    (["ID_Compat_Math_Continue"], idCompatMathContinue),
    (["OAlpha", "Other_Alphabetic"], otherAlphabetic),
    (["ODI", "Other_Default_Ignorable_Code_Point"], otherDefaultIgnorable),
    (["OGr_Ext", "Other_Grapheme_Extend"], otherGraphemeExtend),
    (["OIDC", "Other_ID_Continue"], otherIdContinue),
    (["OIDS", "Other_ID_Start"], otherIdStart),
    (["OLower", "Other_Lowercase"], otherLowercase),
    (["OMath", "Other_Math"], otherMath),
    (["OUpper", "Other_Uppercase"], otherUppercase)]

end CustomProps.Unicode.Property
