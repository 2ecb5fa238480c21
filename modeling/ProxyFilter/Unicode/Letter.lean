import ProxyFilter.Unicode.Category

/-!
# Letters and their case

Letters and what is used like letters (`alphabetic`), upper and lower case, and the characters that
a change of case would change. Each set is built the way the standard derives it: from general
categories and a short table of what stands outside them. The characters are those of Unicode 16.0.
-/

namespace ProxyFilter.Unicode

/-- The letters. -/
def letters : CodeSet := ofCategories ["Lu", "Ll", "Lt", "Lm", "Lo"]

/-- The marks and symbols that are used like letters. -/
def otherAlphabetic : CodeSet := CodeSet.ofGaps
    "837 1 29 13 576 14 1 1 1 2 1 2 1 1 72 11 48 13 1 7 16 1 101 7 4 4 2 2 4 1 35 1 30 16 102 11
    101 2 3 9 1 3 1 4 106 1 60 12 3 7 6 20 54 2 2 15 1 2 5 3 10 2 29 3 58 7 2 2 2 2 10 1 10 2
    29 3 58 5 4 2 2 2 4 1 30 2 3 1 11 3 58 8 1 3 1 2 21 2 22 3 4 3 58 7 2 2 2 2 9 2 10 2 30 1
    59 5 3 3 1 3 10 1 40 5 57 7 1 3 1 3 8 2 11 2 29 3 58 7 1 3 1 3 8 2 11 2 15 1 12 4 58 7 1 3
    1 3 10 1 10 2 29 3 75 6 1 1 1 8 18 2 61 1 2 7 18 1 99 1 2 6 1 2 16 1 163 19 9 11 1 36 110
    12 1 1 2 4 23 4 4 3 1 3 2 7 3 4 13 12 1 1 10 4 1652 2 30 2 30 2 30 2 66 19 188 2 34 1 118
    12 4 9 222 5 57 10 2 20 74 2 11 3 49 5 48 15 60 3 30 9 2 2 57 11 50 19 412 34 1729 52 2294
    32 30836 8 34 2 354 1 8 1 23 5 88 2 50 16 1 1 57 1 38 5 28 12 45 4 48 12 37 1 67 14 12 1 8
    2 45 3 50 1 1 3 2 2 5 1 44 5 5 1 237 8 20275 1 2135 5 1670 3 1 2 5 4 788 4 65 1 321 2 79 1
    259 3 53 14 45 2 11 3 45 9 9 1 61 3 36 12 18 2 57 3 48 13 14 2 92 9 2 1 6 1 2 1 157 10 23 4
    58 7 2 2 2 2 10 1 10 2 84 9 1 1 2 1 1 4 1 2 103 13 1 3 106 18 237 7 2 7 29 2 82 15 1 1 106
    11 103 14 257 13 247 6 1 2 2 2 3 1 1 1 142 7 2 6 4 1 28 10 42 5 1 4 18 11 46 14 407 8 1 7
    83 22 1 14 122 6 3 1 1 2 1 3 1 1 3 1 66 5 1 2 1 4 348 4 9 2 1 1 48 7 3 3 16861 17 3616 1 1
    55 7 4 93 2 19628 1 9057 7 1 17 2 7 1 2 1 5 100 1 2231 1 2024 26 6 26 6 26"

/-- The code points with the property `Alphabetic`. -/
def alphabetic : CodeSet := CodeSet.unions [letters, ofCategories ["Nl"], otherAlphabetic]

/-- The symbols that are used like capital letters. -/
def otherUppercase : CodeSet := CodeSet.ofGaps
    "8544 16 838 26 117856 26 6 26 6 26"

/-- The code points with the property `Uppercase`. -/
def uppercase : CodeSet := (ofCategories ["Lu"]).union otherUppercase

/-- The modifiers and symbols that are used like small letters. -/
def otherLowercase : CodeSet := CodeSet.ofGaps
    "170 1 15 1 501 9 7 2 30 5 96 1 52 1 3457 1 3119 63 13 1 34 37 689 1 13 1 16 13 211 16 848
    26 1938 2 31262 2 210 1 129 3 3 2 866 4 9 1 23574 1 2 3 1 42 1 9 55413 62"

/-- The code points with the property `Lowercase`. -/
def lowercase : CodeSet := (ofCategories ["Ll"]).union otherLowercase

/-- The code points with the property `Cased`. -/
def cased : CodeSet := CodeSet.unions [uppercase, lowercase, ofCategories ["Lt"]]

/-- The signs that may stand inside a word, between its letters. -/
def wordInnerSigns : CodeSet :=
  CodeSet.ofRanges
    [(0x27, 0x27), (0x2E, 0x2E), (0x3A, 0x3A), (0xB7, 0xB7), (0x387, 0x387), (0x55F, 0x55F),
     (0x5F4, 0x5F4), (0x2018, 0x2019), (0x2024, 0x2024), (0x2027, 0x2027), (0xFE13, 0xFE13),
     (0xFE52, 0xFE52), (0xFE55, 0xFE55), (0xFF07, 0xFF07), (0xFF0E, 0xFF0E), (0xFF1A, 0xFF1A)]

/-- The code points with the property `Case_Ignorable`. -/
def caseIgnorable : CodeSet :=
  (ofCategories ["Mn", "Me", "Cf", "Lm", "Sk"]).union wordInnerSigns

/-! ## Changes of case -/

/-- The capital letters without a small one, most of them for formulas. -/
def withoutLowercase : CodeSet := CodeSet.ofGaps
    "978 3 7469 1 4 1 3 3 2 3 2 1 3 5 6 1 3 1 3 2 2 2 1 1 10 2 5 1 111290 26 26 26 26 26 26 1 1
    2 2 1 2 2 2 4 1 8 26 26 26 2 1 4 2 8 1 7 27 2 1 4 1 5 1 1 3 7 27 26 26 26 26 26 26 26 26 26
    26 26 30 25 33 25 33 25 33 25 33 25 33 1 6501 26 6 26 6 26"

/-- The code points with the property `Changes_When_Lowercased`. -/
def changesWhenLowercased : CodeSet :=
  (uppercase.union (ofCategories ["Lt"])).difference withoutLowercase

/-- The small letters without a capital one. -/
def withoutUppercase : CodeSet := CodeSet.ofGaps
    "170 1 15 1 125 1 84 1 28 2 14 1 3 1 98 1 18 6 27 1 2 1 1 1 2 3 2 1 4 1 5 2 1 1 2 2 1 7 1 2
    1 1 2 3 6 5 1 1 1 8 2 26 7 2 30 5 149 1 129 1 355 1 39 1 2931 1 3075 121 1 3 1 16 1 49 220
    2 1 1 465 1 13 1 16 13 109 1 3 2 3 1 27 1 4 1 4 1 2 2 8 4 2855 1 2 1 2 7 102 1 31159 2 146
    2 62 9 21 1 6 1 25 1 35 1 1 1 28 3 3 3 821 35 1 7 1 14 23574 1 2 3 1 42 1 9 52319 26 26 7 1
    18 26 26 26 4 1 1 1 7 1 11 26 26 26 26 26 26 26 26 26 26 26 26 26 26 26 26 26 28 28 25 1 6
    26 25 1 6 26 25 1 6 26 25 1 6 26 25 1 6 1 1 1844 10 1 20 6 6 261 62"

/-- The code points with the property `Changes_When_Uppercased`. -/
def changesWhenUppercased : CodeSet :=
  (lowercase.union (ofCategories ["Lt"])).difference withoutUppercase

/-- The small Georgian letters, which begin no word in capital form. -/
def georgianSmall : CodeSet := CodeSet.ofRanges [(0x10D0, 0x10FA), (0x10FD, 0x10FF)]

/-- The pairs of capital letters in one character, of which only the first begins a word in capital
form. -/
def capitalPairs : CodeSet :=
  CodeSet.ofRanges [(0x1C4, 0x1C4), (0x1C7, 0x1C7), (0x1CA, 0x1CA), (0x1F1, 0x1F1)]

/-- The code points with the property `Changes_When_Titlecased`. -/
def changesWhenTitlecased : CodeSet :=
  (changesWhenUppercased.difference ((ofCategories ["Lt"]).union georgianSmall)).union capitalPairs

/-- The code points that are no capital letters and yet change when case is folded. -/
def foldedSmall : CodeSet :=
  CodeSet.ofRanges
    [(0xB5, 0xB5), (0xDF, 0xDF), (0x149, 0x149), (0x17F, 0x17F), (0x345, 0x345), (0x3C2, 0x3C2),
     (0x3D0, 0x3D1), (0x3D5, 0x3D6), (0x3F0, 0x3F1), (0x3F5, 0x3F5), (0x587, 0x587),
     (0x13F8, 0x13FD), (0x1C80, 0x1C88), (0x1E9A, 0x1E9B), (0x1F80, 0x1F87), (0x1F90, 0x1F97),
     (0x1FA0, 0x1FA7), (0x1FB2, 0x1FB4), (0x1FB7, 0x1FB7), (0x1FC2, 0x1FC4), (0x1FC7, 0x1FC7),
     (0x1FF2, 0x1FF4), (0x1FF7, 0x1FF7), (0xAB70, 0xABBF), (0xFB00, 0xFB06), (0xFB13, 0xFB17)]

/-- The code points with the property `Changes_When_Casefolded`: Cherokee folds to capitals. -/
def changesWhenCasefolded : CodeSet :=
  (changesWhenLowercased.difference (CodeSet.range 0x13A0 0x13F5)).union foldedSmall

/-- The code points with the property `Changes_When_Casemapped`. -/
def changesWhenCasemapped : CodeSet :=
  CodeSet.unions [changesWhenLowercased, changesWhenUppercased, changesWhenTitlecased]

/-- The code points with the property `Soft_Dotted`. -/
def softDotted : CodeSet := CodeSet.ofGaps
    "105 2 196 1 281 1 30 1 52 1 20 1 320 1 98 1 1 1 6409 1 51 1 13 1 3 1 132 1 157 1 421 1 214
    2 2866 1 108453 2 50 2 50 2 50 2 50 2 50 2 50 2 50 2 50 2 50 2 50 2 50 2 50 2 2182 1 305 2
    26 1"

end ProxyFilter.Unicode
