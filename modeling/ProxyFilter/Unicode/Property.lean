import ProxyFilter.Unicode.Emoji
import ProxyFilter.Unicode.Letter

/-!
# Properties of characters

Sets of characters that stand across the general categories, in Unicode 16.0: blanks, marks that
belong to the character before them, characters of words and of identifiers, and signs of all kinds.
A set that the standard derives from others is derived here too. `propertySet?` looks a property up
by its name in lower case.
-/

namespace ProxyFilter.Unicode

/-! ## Blanks, marks and controls -/

/-- The code points with the property `White_Space`. -/
def blank : CodeSet :=
  ⟨#[(9, 13), (0x20, 0x20), (0x85, 0x85), (0xA0, 0xA0), (0x1680, 0x1680), (0x2000, 0x200A),
    (0x2028, 0x2029), (0x202F, 0x202F), (0x205F, 0x205F), (0x3000, 0x3000)]⟩

/-- The code points with the property `Join_Control`. -/
def joinControl : CodeSet := CodeSet.range 0x200C 0x200D

/-- The code points with the property `Bidi_Control`. -/
def bidiControl : CodeSet :=
  CodeSet.ofRanges [(0x61C, 0x61C), (0x200E, 0x200F), (0x202A, 0x202E), (0x2066, 0x2069)]

/-- The code points with the property `Bidi_Mirrored`. -/
def bidiMirrored : CodeSet := CodeSet.ofGaps
    "40 2 18 1 1 1 28 1 1 1 29 1 1 1 45 1 15 1 3710 4 1885 2 2460 2 10 2 54 2 14 2 177 1 192 4 3
    6 3 1 3 2 3 4 1 4 1 1 1 1 4 9 5 1 1 18 5 4 9 2 1 1 1 8 1 32 2 4 5 1 9 2 2 19 5 2 9 5 2 2 4
    24 2 16 8 4 20 2 7 2 1085 14 74 1 2 4 1 2 1 3 5 4 5 3 3 14 403 22 2 6 1 14 8 1 7 6 3 1 4 5
    1 2 2 5 4 1 1 3 2 2 10 6 2 2 12 19 1 4 2 1 1 1 2 1 1 4 5 2 6 3 24 2 11 2 4 4 1 2 2 2 4 43 2
    8 1 40 5 1 1 1 3 5 5 3 4 1 3 5 1 1 256 1 515 4 3 2 1 2 14 2 2 10 43 8 427 10 2 8 52797 6 5
    2 162 2 18 1 1 1 28 1 1 1 29 1 1 1 1 2 1 2 55159 1 57 1 57 1 57 1 57 1"

/-- The characters that belong to the one before them and are no marks without a width. -/
def otherGraphemeExtend : CodeSet := CodeSet.ofGaps
    "2494 1 24 1 358 1 24 1 102 1 24 1 232 1 1 1 4 2 1 2 9 2 103 1 24 1 119 1 15 1 2357 1 30 1
    1024 1 5 1 1 1 5 2 101 1 71 2 1048 1 4129 2 31011 1 108 1 21981 2 4640 1 116 1 264 1 14 1 9
    1 96 1 9 1 2 1 1 3 5 1 224 1 12 1 241 1 262 1 633 1 12 1 1539 1 20654 2 24947 2 6 6 798381
    96"

/-- The code points with the property `Grapheme_Extend`. -/
def graphemeExtend : CodeSet := (ofCategories ["Mn", "Me"]).union otherGraphemeExtend

/-- The code points with the property `Grapheme_Base`. -/
def graphemeBase : CodeSet :=
  ((ofCategories ["Cc", "Cf", "Cs", "Co", "Cn", "Zl", "Zp"]).union graphemeExtend).negate

/-- The code points with the property `Grapheme_Link`: signs that join the letters around them. -/
def graphemeLink : CodeSet := CodeSet.ofGaps
    "2381 1 127 1 127 1 127 1 127 1 127 1 127 1 127 1 109 2 16 1 124 1 111 1 127 1 201 1 180 2
    1753 2 30 1 157 1 653 1 227 1 101 2 70 2 4491 1 31366 1 37 1 151 1 142 1 108 1 309 1 246 1
    24145 1 1542 1 41 1 14 1 57 1 121 2 139 1 116 1 180 1 98 1 128 3 113 1 127 1 252 1 127 1
    118 1 116 1 269 1 259 2 161 1 83 1 18 1 81 1 421 1 260 2 81 1 425 2 16876 1"

/-- The code points with the property `Modifier_Combining_Mark`. -/
def modifierCombiningMark : CodeSet :=
  CodeSet.ofRanges
    [(0x654, 0x655), (0x658, 0x658), (0x6DC, 0x6DC), (0x6E3, 0x6E3), (0x6E7, 0x6E8),
     (0x8CA, 0x8CB), (0x8CD, 0x8CF), (0x8D3, 0x8D3), (0x8F3, 0x8F3)]

/-- The code points with the property `Diacritic`. -/
def diacritic : CodeSet := CodeSet.ofGaps
    "94 1 1 1 71 1 6 1 4 1 2 2 503 159 1 8 5 6 17 2 4 1 9 2 253 5 209 1 55 45 1 1 1 2 1 2 1 1
    131 8 4 2 134 2 4 2 3 3 67 27 91 11 58 11 34 2 126 8 41 10 16 28 61 1 16 1 3 4 28 1 74 1 16
    1 110 1 16 1 110 1 16 1 47 3 60 1 16 1 7 1 119 1 110 1 16 1 110 1 16 1 109 2 16 1 124 1 111
    1 12 6 1 1 107 1 13 5 75 2 27 1 1 1 1 1 4 2 66 3 1 2 62 1 112 1 1 2 40 2 4 5 25 7 1 1 10 2
    705 3 948 2 30 1 148 11 9 1 347 3 292 1 20 8 2 1 48 15 2 11 104 1 15 1 38 9 54 2 58 1 11 2
    66 2 64 6 82 25 4 1 6 1 2 3 50 63 48 36 5 12 37 11 445 1 1 3 11 3 13 3 13 3 13 2 3312 3 317
    1 506 6 105 4 95 1 30066 1 12 2 1 1 28 2 82 2 14 34 102 3 109 2 12 1 37 1 151 1 27 18 57 4
    36 1 95 1 12 1 36 1 149 3 65 4 51 1 100 5 9 3 128 2 20272 1 769 16 270 1 1 1 47 1 45 2 67 1
    764 1 1183 6 1 42 1 9 637 3 4 1 165 2 571 6 38 1 26 5 399 3 70 11 49 4 192 1 41 1 72 2 120
    2 62 1 76 1 9 3 104 2 178 2 80 2 16 1 24 7 3 5 89 3 1 2 13 2 95 1 3 1 123 2 251 2 126 1 118
    2 115 1 269 2 258 2 4 1 156 1 83 1 18 1 81 1 421 1 258 1 1 2 81 1 425 2 23 1 5356 15 11481
    1 2496 5 59 7 564 2 546 17 80 2 16382 4 1 7 1 2 7937 46 2 23 544 3 3 6 8 8 2 7 30 4 3714 62
    194 7 375 1 61 4 766 2 736 7 109 3 1 3"

/-- The code points with the property `Extender`. -/
def extender : CodeSet := CodeSet.ofGaps
    "183 1 536 2 878 1 441 1 630 1 137 1 89 1 752 1 127 1 2371 1 56 1 611 1 398 1 68 1 5001 1 43
    5 103 2 93 3 28438 1 1526 1 962 1 22 1 137 1 108 1 21 2 21627 1 2064 2 1483 1 27 1 4 1 1223
    1 293 1 116 2 498 3 1231 1 20649 2 1180 2 1 1 29016 2 1201 1 852 3"

/-- The code points with the property `Prepended_Concatenation_Mark`. -/
def prependedConcatenationMark : CodeSet :=
  CodeSet.ofRanges
    [(0x600, 0x605), (0x6DD, 0x6DD), (0x70F, 0x70F), (0x890, 0x891), (0x8E2, 0x8E2),
     (0x110BD, 0x110BD), (0x110CD, 0x110CD)]

/-- The code points with the property `Variation_Selector`. -/
def variationSelector : CodeSet :=
  CodeSet.ofRanges [(0x180B, 0x180D), (0x180F, 0x180F), (0xFE00, 0xFE0F), (0xE0100, 0xE01EF)]

/-- The code points that show nothing and are neither controls of format nor variation
selectors. -/
def otherDefaultIgnorable : CodeSet :=
  CodeSet.ofRanges
    [(0x34F, 0x34F), (0x115F, 0x1160), (0x17B4, 0x17B5), (0x2065, 0x2065), (0x3164, 0x3164),
     (0xFFA0, 0xFFA0), (0xFFF0, 0xFFF8), (0xE0000, 0xE0000), (0xE0002, 0xE001F),
     (0xE0080, 0xE00FF), (0xE01F0, 0xE0FFF)]

/-- The controls of format that show something. -/
def shownControls : CodeSet := CodeSet.ofRanges [(0xFFF9, 0xFFFB), (0x13430, 0x13440)]

/-- The code points with the property `Default_Ignorable_Code_Point`. -/
def defaultIgnorable : CodeSet :=
  (CodeSet.unions [otherDefaultIgnorable, ofCategories ["Cf"], variationSelector]).difference
    (CodeSet.unions [blank, shownControls, prependedConcatenationMark])

/-- The code points with the property `Noncharacter_Code_Point`. -/
def noncharacter : CodeSet :=
  CodeSet.ofRanges ((0xFDD0, 0xFDEF) :: (List.range 17).map fun plane =>
    (0x10000 * plane + 0xFFFE, 0x10000 * plane + 0xFFFF))

/-- The code points with the property `Deprecated`. -/
def deprecated : CodeSet :=
  CodeSet.ofRanges
    [(0x149, 0x149), (0x673, 0x673), (0xF77, 0xF77), (0xF79, 0xF79), (0x17A3, 0x17A4),
     (0x206A, 0x206F), (0x2329, 0x232A), (0xE0001, 0xE0001)]

/-- The code points with the property `Logical_Order_Exception`. -/
def logicalOrderException : CodeSet :=
  CodeSet.ofRanges
    [(0xE40, 0xE44), (0xEC0, 0xEC4), (0x19B5, 0x19B7), (0x19BA, 0x19BA), (0xAAB5, 0xAAB6),
     (0xAAB9, 0xAAB9), (0xAABB, 0xAABC)]

/-! ## Words and identifiers -/

/-- The decimal digits of all scripts. -/
def decimalDigit : CodeSet := ofCategories ["Nd"]

/-- The characters of words: alphabetic ones, marks, decimal digits, connecting punctuation and
joiners. -/
def wordCharacter : CodeSet :=
  CodeSet.unions [alphabetic, ofCategories ["Mn", "Mc", "Me", "Nd", "Pc"], joinControl]

/-- The code points with the property `Pattern_Syntax`. -/
def patternCharacters : CodeSet := CodeSet.ofGaps
    "33 15 10 7 26 4 1 1 26 4 34 7 1 1 1 2 1 1 1 2 4 1 4 1 3 1 23 1 31 1 7960 24 8 15 2 19 1 10
    305 720 160 630 30 1132 512 128 385 3 4 25 15 1 52493 2 261 2"

/-- The code points with the property `Pattern_White_Space`. -/
def patternBlanks : CodeSet :=
  CodeSet.ofRanges
    [(0x9, 0xD), (0x20, 0x20), (0x85, 0x85), (0x200E, 0x200F), (0x2028, 0x2029)]

/-- The characters that begin identifiers and are neither letters nor letter numbers. -/
def otherIdStart : CodeSet :=
  CodeSet.ofRanges [(0x1885, 0x1886), (0x2118, 0x2118), (0x212E, 0x212E), (0x309B, 0x309C)]

/-- The code points with the property `ID_Start`. -/
def idStart : CodeSet :=
  (CodeSet.unions [letters, ofCategories ["Nl"], otherIdStart]).difference
    (patternCharacters.union patternBlanks)

/-- The characters that identifiers have after their first and that are in no category of such. -/
def otherIdContinue : CodeSet :=
  CodeSet.ofRanges
    [(0xB7, 0xB7), (0x387, 0x387), (0x1369, 0x1371), (0x19DA, 0x19DA), (0x200C, 0x200D),
     (0x30FB, 0x30FB), (0xFF65, 0xFF65)]

/-- The code points with the property `ID_Continue`. -/
def idContinue : CodeSet :=
  (CodeSet.unions [idStart, ofCategories ["Mn", "Mc", "Nd", "Pc"], otherIdContinue]).difference
    (patternCharacters.union patternBlanks)

/-- The characters of identifiers that their plain forms would not leave such. -/
def unstableIds : CodeSet :=
  CodeSet.ofRanges
    [(0x37A, 0x37A), (0x309B, 0x309C), (0xFC5E, 0xFC63), (0xFDFA, 0xFDFB), (0xFE70, 0xFE70),
     (0xFE72, 0xFE72), (0xFE74, 0xFE74), (0xFE76, 0xFE76), (0xFE78, 0xFE78), (0xFE7A, 0xFE7A),
     (0xFE7C, 0xFE7C), (0xFE7E, 0xFE7E)]

/-- The code points with the property `XID_Start`. -/
def xidStart : CodeSet :=
  idStart.difference (unstableIds.union
    (CodeSet.ofRanges [(0xE33, 0xE33), (0xEB3, 0xEB3), (0xFF9E, 0xFF9F)]))

/-- The code points with the property `XID_Continue`. -/
def xidContinue : CodeSet := idContinue.difference unstableIds

/-- The code points with the property `ID_Compat_Math_Start`. -/
def idCompatMathStart : CodeSet :=
  CodeSet.ofRanges
    [(0x2202, 0x2202), (0x2207, 0x2207), (0x221E, 0x221E), (0x1D6C1, 0x1D6C1), (0x1D6DB, 0x1D6DB),
     (0x1D6FB, 0x1D6FB), (0x1D715, 0x1D715), (0x1D735, 0x1D735), (0x1D74F, 0x1D74F),
     (0x1D76F, 0x1D76F), (0x1D789, 0x1D789), (0x1D7A9, 0x1D7A9), (0x1D7C3, 0x1D7C3)]

/-- The code points with the property `ID_Compat_Math_Continue`. -/
def idCompatMathContinue : CodeSet :=
  idCompatMathStart.union (CodeSet.ofRanges
    [(0xB2, 0xB3), (0xB9, 0xB9), (0x2070, 0x2070), (0x2074, 0x207E), (0x2080, 0x208E)])

/-! ## Signs -/

/-- The code points with the property `ASCII_Hex_Digit`. -/
def asciiHexDigit : CodeSet := CodeSet.ofRanges [(48, 57), (65, 70), (97, 102)]

/-- The code points with the property `Hex_Digit`. -/
def hexDigit : CodeSet :=
  asciiHexDigit.union
    (CodeSet.ofRanges [(0xFF10, 0xFF19), (0xFF21, 0xFF26), (0xFF41, 0xFF46)])

/-- The characters of formulas that are no mathematical symbols. -/
def otherMath : CodeSet := CodeSet.ofGaps
    "94 1 881 3 2 1 26 2 2 2 7200 1 27 3 11 1 32 4 24 2 14 2 65 13 4 1 3 2 4 5 18 1 4 1 2 10 1 1
    3 5 6 1 3 2 2 2 1 3 1 6 3 4 5 5 75 5 2 4 1 2 1 2 1 1 1 5 2 2 4 2 4 18 2 2 1 1 1 7 1 1 6 2
    290 4 168 2 1 1 24 1 17 1 445 2 12 9 5 5 5 2 2 2 3 5 14 1 1 1 2 6 24 2 57 1 1 1 29 4 9 2
    342 2 31 10 403 22 63 4 32 2 54371 1 1 1 4 1 211 1 1 1 54465 85 1 71 1 2 2 1 2 2 2 4 1 12 1
    1 1 7 1 65 1 4 2 8 1 7 1 28 1 4 1 5 1 1 3 7 1 340 2 25 1 25 1 31 1 25 1 31 1 25 1 31 1 25 1
    31 1 25 1 8 2 50 5632 4 1 27 1 2 1 1 2 1 1 10 1 4 1 1 1 1 6 1 4 1 1 1 1 1 1 3 1 2 1 1 2 1 1
    1 1 1 1 1 1 1 1 2 1 1 2 4 1 7 1 4 1 4 1 1 1 10 1 17 5 3 1 5 1 17"

/-- The code points with the property `Math`. -/
def math : CodeSet := (ofCategories ["Sm"]).union otherMath

/-- The code points with the property `Dash`. -/
def dash : CodeSet := CodeSet.ofGaps
    "45 1 1372 1 51 1 3649 1 1029 1 2057 6 61 1 39 1 15 1 390 1 3076 1 2 1 31 2 4 1 28 1 446 1
    19 1 111 1 52624 2 37 1 10 1 169 1 3680 1 318 1"

/-- The code points with the property `Hyphen`. -/
def hyphen : CodeSet := CodeSet.ofGaps
    "45 1 127 1 1244 1 4731 1 2057 2 3589 1 739 1 52583 1 169 1 87 1"

/-- The code points with the property `Quotation_Mark`. -/
def quotationMark : CodeSet := CodeSet.ofGaps
    "34 1 4 1 131 1 15 1 8028 8 25 2 3591 1 457 4 13 3 52769 4 189 1 4 1 90 2"

/-- The code points with the property `Terminal_Punctuation`. -/
def terminalPunctuation : CodeSet := CodeSet.ofGaps
    "33 1 10 1 1 1 11 2 3 1 830 1 8 1 513 1 57 1 72 1 14 1 1 3 180 1 43 11 1 1 235 2 54 6 1 8 31
    1 261 2 1268 2 172 1 4 6 311 2 789 8 773 1 124 3 71 2 157 3 3 1 39 4 2 2 314 2 354 4 162 2
    10 2 1 3 29 3 187 5 62 2 932 1 23 2 9 3 3247 3 306 1 13 1 4 1 10 1 1 2 3 2 428 2 29947 2
    269 3 227 5 382 2 86 2 95 1 151 3 147 3 127 1 16 2 249 1 21030 1 2 2 57 3 1 4 169 1 10 1 1
    1 11 2 3 1 65 1 2 1 1082 1 48 1 1158 1 199 1 310 2 152 6 68 6 89 4 952 5 44 4 189 7 112 4
    127 3 129 2 6 1 16 2 88 5 108 1 298 2 117 3 12 2 358 4 3 15 105 2 249 3 517 1 1 1 251 2 87
    2 4 2 414 3 45 1 645 2 74 2 1323 5 17913 2 133 1 65 3 10 1 553 2 295 2 19974 1 7655 4"

/-- The code points with the property `Sentence_Terminal`. -/
def sentenceTerminal : CodeSet := CodeSet.ofGaps
    "33 1 12 1 16 1 1353 1 147 3 180 1 43 3 246 1 61 1 1 1 3 2 293 2 1764 2 790 1 4 2 773 1 198
    2 157 2 45 1 5 1 314 2 354 4 162 2 10 2 2 2 29 3 187 2 65 2 932 1 23 2 9 3 3247 3 306 1 13
    1 22 2 429 1 29948 1 270 2 227 1 3 1 382 2 86 2 95 1 152 2 147 3 144 2 249 1 21030 1 2 2 59
    1 3 2 169 1 12 1 16 1 65 1 2804 2 1277 5 44 4 189 2 117 4 127 3 129 2 6 1 16 2 88 2 1 2 108
    1 298 2 117 2 373 2 5 15 105 2 249 3 517 1 1 1 251 2 87 2 420 2 692 2 74 2 19241 2 133 1 65
    2 11 1 553 2 296 1 19974 1 7656 1"

/-- The code points with the property `Ideographic`. -/
def ideographic : CodeSet := CodeSet.ofGaps
    "12294 2 25 9 14 3 965 6592 64 20992 22784 366 2 106 29962 1 27 6136 8 1238 41 10 9319 396
    19716 42720 32 4154 6 222 2 5762 14 7473 15 622 2466 542 1506 4939 5 4192"

/-- The code points with the property `Unified_Ideograph`. -/
def unifiedIdeograph : CodeSet := CodeSet.ofGaps
    "13312 6592 64 20992 23054 2 1 1 1 2 10 1 1 1 1 2 2 3 67030 42720 32 4154 6 222 2 5762 14
    7473 15 622 4514 4939 5 4192"

/-- The code points with the property `Radical`. -/
def radical : CodeSet :=
  CodeSet.ofRanges [(0x2E80, 0x2E99), (0x2E9B, 0x2EF3), (0x2F00, 0x2FD5)]

/-- The code points with the property `IDS_Binary_Operator`. -/
def idsBinaryOperator : CodeSet :=
  CodeSet.ofRanges [(0x2FF0, 0x2FF1), (0x2FF4, 0x2FFD), (0x31EF, 0x31EF)]

/-- The code points with the property `IDS_Trinary_Operator`. -/
def idsTrinaryOperator : CodeSet := CodeSet.range 0x2FF2 0x2FF3

/-- The code points with the property `IDS_Unary_Operator`. -/
def idsUnaryOperator : CodeSet := CodeSet.range 0x2FFE 0x2FFF

/-! ## Names -/

/-- The sets of the properties, by their names in lower case and without separators. -/
def propertySets : List (String × CodeSet) :=
  [("alphabetic", alphabetic), ("alpha", alphabetic), ("otheralphabetic", otherAlphabetic),
   ("oalpha", otherAlphabetic), ("uppercase", uppercase), ("upper", uppercase),
   ("otheruppercase", otherUppercase), ("oupper", otherUppercase), ("lowercase", lowercase),
   ("lower", lowercase), ("otherlowercase", otherLowercase), ("olower", otherLowercase),
   ("cased", cased), ("caseignorable", caseIgnorable), ("ci", caseIgnorable),
   ("changeswhenlowercased", changesWhenLowercased), ("cwl", changesWhenLowercased),
   ("changeswhenuppercased", changesWhenUppercased), ("cwu", changesWhenUppercased),
   ("changeswhentitlecased", changesWhenTitlecased), ("cwt", changesWhenTitlecased),
   ("changeswhencasefolded", changesWhenCasefolded), ("cwcf", changesWhenCasefolded),
   ("changeswhencasemapped", changesWhenCasemapped), ("cwcm", changesWhenCasemapped),
   ("softdotted", softDotted), ("sd", softDotted), ("graphemeextend", graphemeExtend),
   ("grext", graphemeExtend), ("othergraphemeextend", otherGraphemeExtend),
   ("ogrext", otherGraphemeExtend), ("graphemebase", graphemeBase), ("grbase", graphemeBase),
   ("graphemelink", graphemeLink), ("grlink", graphemeLink),
   ("modifiercombiningmark", modifierCombiningMark), ("mcm", modifierCombiningMark),
   ("diacritic", diacritic), ("dia", diacritic), ("extender", extender), ("ext", extender),
   ("whitespace", blank), ("wspace", blank), ("space", blank), ("joincontrol", joinControl),
   ("joinc", joinControl), ("bidicontrol", bidiControl), ("bidic", bidiControl),
   ("bidimirrored", bidiMirrored), ("bidim", bidiMirrored),
   ("prependedconcatenationmark", prependedConcatenationMark), ("pcm", prependedConcatenationMark),
   ("variationselector", variationSelector), ("vs", variationSelector),
   ("defaultignorablecodepoint", defaultIgnorable), ("di", defaultIgnorable),
   ("otherdefaultignorablecodepoint", otherDefaultIgnorable), ("odi", otherDefaultIgnorable),
   ("noncharactercodepoint", noncharacter), ("nchar", noncharacter), ("deprecated", deprecated),
   ("dep", deprecated), ("logicalorderexception", logicalOrderException),
   ("loe", logicalOrderException), ("idstart", idStart), ("ids", idStart),
   ("otheridstart", otherIdStart), ("oids", otherIdStart), ("idcontinue", idContinue),
   ("idc", idContinue), ("otheridcontinue", otherIdContinue), ("oidc", otherIdContinue),
   ("xidstart", xidStart), ("xids", xidStart), ("xidcontinue", xidContinue), ("xidc", xidContinue),
   ("idcompatmathstart", idCompatMathStart), ("idcompatmathcontinue", idCompatMathContinue),
   ("patternsyntax", patternCharacters), ("patsyn", patternCharacters),
   ("patternwhitespace", patternBlanks), ("patws", patternBlanks),
   ("asciihexdigit", asciiHexDigit), ("ahex", asciiHexDigit), ("hexdigit", hexDigit),
   ("hex", hexDigit), ("math", math), ("othermath", otherMath), ("omath", otherMath),
   ("dash", dash), ("hyphen", hyphen), ("quotationmark", quotationMark), ("qmark", quotationMark),
   ("terminalpunctuation", terminalPunctuation), ("term", terminalPunctuation),
   ("sentenceterminal", sentenceTerminal), ("sterm", sentenceTerminal),
   ("ideographic", ideographic), ("ideo", ideographic), ("unifiedideograph", unifiedIdeograph),
   ("uideo", unifiedIdeograph), ("radical", radical), ("idsbinaryoperator", idsBinaryOperator),
   ("idsb", idsBinaryOperator), ("idstrinaryoperator", idsTrinaryOperator),
   ("idst", idsTrinaryOperator), ("idsunaryoperator", idsUnaryOperator),
   ("idsu", idsUnaryOperator), ("emoji", emoji), ("emojipresentation", emojiPresentation),
   ("epres", emojiPresentation), ("emojimodifier", emojiModifier), ("emod", emojiModifier),
   ("emojimodifierbase", emojiModifierBase), ("ebase", emojiModifierBase),
   ("emojicomponent", emojiComponent), ("ecomp", emojiComponent),
   ("extendedpictographic", extendedPictographic), ("extpict", extendedPictographic),
   ("regionalindicator", regionalIndicator), ("ri", regionalIndicator)]

/-- The code points with a property. -/
def propertySet? (name : String) : Option CodeSet := propertySets.lookup name

end ProxyFilter.Unicode
