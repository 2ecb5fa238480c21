import ProxyFilter.Unicode.Property
import ProxyFilter.Unicode.Script

/-!
# Boundaries of characters, words and sentences

Rules that find the boundaries of what a reader takes for one character, of words and of sentences
sort characters into classes, one sorting for each kind of boundary. The classes are built here by
their rules, for Unicode 16.0. `characterBreakSet?`, `wordBreakSet?` and `sentenceBreakSet?` look a
class up by its name in lower case. The class of all characters that are in no other is not among
the names.
-/

namespace ProxyFilter.Unicode

/-- The set with one member for each number. -/
def ofMembers (members : List Nat) : CodeSet := CodeSet.ofRanges (members.map fun n => (n, n))

/-- The joiner that makes one picture of several. -/
def wideJoiner : CodeSet := CodeSet.single 0x200D

/-! ## Characters -/

/-- What is added to the character before it: marks, and modifiers of pictures. -/
def graphemeExtenders : CodeSet :=
  (graphemeExtend.union emojiModifier).difference wideJoiner

/-- Letters that are written before or above what follows, and marks that enclose it. -/
def prependedLetters : CodeSet :=
  prependedConcatenationMark.union (CodeSet.ofRanges
    [(0xD4E, 0xD4E), (0x111C2, 0x111C3), (0x113D1, 0x113D1), (0x1193F, 0x1193F),
     (0x11941, 0x11941), (0x11A3A, 0x11A3A), (0x11A84, 0x11A89), (0x11D46, 0x11D46),
     (0x11F02, 0x11F02)])

/-- Controls, and code points of the same kind that are not assigned. -/
def breakingControls : CodeSet :=
  ((ofCategories ["Zl", "Zp", "Cc", "Cf"]).union
      ((ofCategories ["Cn"]).inter defaultIgnorable)).difference
    (CodeSet.unions [ofMembers [10, 13, 0x200C, 0x200D], prependedConcatenationMark,
      graphemeExtend])

/-- Marks with a width that belong to the letter before them, by exception not all of them. -/
def spacingMarks : CodeSet :=
  ((ofCategories ["Mc"]).union (ofMembers [0xE33, 0xEB3])).difference
    (graphemeExtend.union (CodeSet.ofRanges
      [(0x102B, 0x102C), (0x1038, 0x1038), (0x1062, 0x1064), (0x1067, 0x106D), (0x1083, 0x1083),
       (0x1087, 0x108C), (0x108F, 0x108F), (0x109A, 0x109C), (0x1A61, 0x1A61), (0x1A63, 0x1A64),
       (0xAA7B, 0xAA7B), (0xAA7D, 0xAA7D), (0x11720, 0x11721)]))

/-- The Hangul syllables of two letters. -/
def openSyllables : CodeSet := ofMembers ((List.range 399).map (0xAC00 + 28 * ·))

/-- The Hangul syllables of three letters. -/
def closedSyllables : CodeSet := (CodeSet.range 0xAC00 0xD7A3).difference openSyllables

/-- The classes for the boundaries of characters, by their names in lower case. -/
def characterBreaks : List (String × CodeSet) :=
  [("cr", CodeSet.single 13), ("lf", CodeSet.single 10),
   ("control", breakingControls), ("cn", breakingControls),
   ("extend", graphemeExtenders), ("ex", graphemeExtenders),
   ("prepend", prependedLetters), ("pp", prependedLetters),
   ("spacingmark", spacingMarks), ("sm", spacingMarks),
   ("regionalindicator", regionalIndicator), ("ri", regionalIndicator),
   ("zwj", wideJoiner),
   ("l", CodeSet.ofRanges [(0x1100, 0x115F), (0xA960, 0xA97C)]),
   ("v", CodeSet.ofRanges
     [(0x1160, 0x11A7), (0xD7B0, 0xD7C6), (0x16D63, 0x16D63), (0x16D67, 0x16D6A)]),
   ("t", CodeSet.ofRanges [(0x11A8, 0x11FF), (0xD7CB, 0xD7FB)]),
   ("lv", openSyllables), ("lvt", closedSyllables)]

/-- The characters of a class for the boundaries of characters. -/
def characterBreakSet? (name : String) : Option CodeSet := characterBreaks.lookup name

/-! ## Words -/

/-- What is added to a word: marks of any width, and modifiers of pictures. -/
def wordExtenders : CodeSet := graphemeExtenders.union (ofCategories ["Mc"])

/-- The digits, and the signs of format that stand before numbers. -/
def numericDigits : CodeSet :=
  (ofCategories ["Nd"]).union (CodeSet.ofRanges
    [(0x600, 0x605), (0x66B, 0x66B), (0x6DD, 0x6DD), (0x890, 0x891), (0x8E2, 0x8E2),
     (0x19DA, 0x19DA), (0x110BD, 0x110BD), (0x110CD, 0x110CD)])

/-- Controls of format that do not break a word. -/
def wordFormat : CodeSet :=
  (ofCategories ["Cf"]).difference
    (CodeSet.unions [ofMembers [0x200B, 0x200C, 0x200D], graphemeExtenders,
      prependedConcatenationMark])

/-- The letters of Hebrew. -/
def hebrewLetters : CodeSet := (CodeSet.ofLabels scriptRuns ["Hebr"]).inter (ofCategories ["Lo"])

/-- The signs of Katakana, and what is used with them. -/
def katakana : CodeSet :=
  (CodeSet.ofLabels scriptRuns ["Kana"]).union (CodeSet.ofRanges
    [(0x3031, 0x3035), (0x309B, 0x309C), (0x30A0, 0x30A0), (0x30FC, 0x30FC), (0xFF70, 0xFF70)])

/-- Letters of scripts of South-East Asia that put no blanks between words. -/
def lettersWithoutBlanks : CodeSet :=
  CodeSet.ofRanges
    [(0xE01, 0xE30), (0xE32, 0xE33), (0xE40, 0xE46), (0xE81, 0xE82), (0xE84, 0xE84),
     (0xE86, 0xE8A), (0xE8C, 0xEA3), (0xEA5, 0xEA5), (0xEA7, 0xEB0), (0xEB2, 0xEB3),
     (0xEBD, 0xEBD), (0xEC0, 0xEC4), (0xEC6, 0xEC6), (0xEDC, 0xEDF), (0x1000, 0x102A),
     (0x103F, 0x103F), (0x1050, 0x1055), (0x105A, 0x105D), (0x1061, 0x1061), (0x1065, 0x1066),
     (0x106E, 0x1070), (0x1075, 0x1081), (0x108E, 0x108E), (0x1780, 0x17B3), (0x17D7, 0x17D7),
     (0x17DC, 0x17DC), (0x1950, 0x196D), (0x1970, 0x1974), (0x1980, 0x19AB), (0x19B0, 0x19C9),
     (0x1A20, 0x1A54), (0x1AA7, 0x1AA7), (0xA9E0, 0xA9E4), (0xA9E6, 0xA9EF), (0xA9FA, 0xA9FE),
     (0xAA60, 0xAA76), (0xAA7A, 0xAA7A), (0xAA7E, 0xAAAF), (0xAAB1, 0xAAB1), (0xAAB5, 0xAAB6),
     (0xAAB9, 0xAABD), (0xAAC0, 0xAAC0), (0xAAC2, 0xAAC2), (0xAADB, 0xAADD), (0x11700, 0x1171A),
     (0x11740, 0x11746)]

/-- Modifiers that are used like letters. -/
def letterLikeSigns : CodeSet :=
  CodeSet.ofRanges
    [(0xB8, 0xB8), (0x2C2, 0x2C5), (0x2D2, 0x2D7), (0x2DE, 0x2DF), (0x2E5, 0x2EB), (0x2ED, 0x2ED),
     (0x2EF, 0x2FF), (0x55A, 0x55C), (0x55E, 0x55E), (0x58A, 0x58A), (0x5F3, 0x5F3),
     (0x70F, 0x70F), (0xA708, 0xA716), (0xA720, 0xA721), (0xA789, 0xA78A), (0xAB5B, 0xAB5B)]

/-- The letters of scripts that put blanks between words. -/
def wordLetters : CodeSet :=
  (alphabetic.union letterLikeSigns).difference (CodeSet.unions
    [ideographic, katakana, CodeSet.ofLabels scriptRuns ["Hira"], wordExtenders, hebrewLetters,
     lettersWithoutBlanks])

/-- Signs that join words and numbers into longer ones. -/
def wordConnectors : CodeSet := (ofCategories ["Pc"]).union (CodeSet.single 0x202F)

/-- Signs between the letters of a word. -/
def middleOfLetters : CodeSet :=
  ofMembers [0x3A, 0xB7, 0x387, 0x55F, 0x5F4, 0x2027, 0xFE13, 0xFE55, 0xFF1A]

/-- Signs between the digits of a number. -/
def middleOfNumbers : CodeSet :=
  ofMembers
    [0x2C, 0x3B, 0x37E, 0x589, 0x60C, 0x60D, 0x66C, 0x7F8, 0x2044, 0xFE50, 0xFE54, 0xFF0C, 0xFF1B]

/-- Signs between letters and between digits. -/
def middleOfBoth : CodeSet :=
  ofMembers [0x2E, 0x2018, 0x2019, 0x2024, 0xFE52, 0xFF07, 0xFF0E]

/-- Line ends other than the return and the line feed. -/
def wordNewlines : CodeSet := ofMembers [11, 12, 0x85, 0x2028, 0x2029]

/-- Blanks that belong together. -/
def wordBlanks : CodeSet :=
  CodeSet.ofRanges
    [(0x20, 0x20), (0x1680, 0x1680), (0x2000, 0x2006), (0x2008, 0x200A), (0x205F, 0x205F),
     (0x3000, 0x3000)]

/-- The classes for the boundaries of words, by their names in lower case. -/
def wordBreaks : List (String × CodeSet) :=
  [("cr", CodeSet.single 13), ("lf", CodeSet.single 10),
   ("newline", wordNewlines), ("nl", wordNewlines),
   ("doublequote", CodeSet.single 34), ("dq", CodeSet.single 34),
   ("singlequote", CodeSet.single 39), ("sq", CodeSet.single 39),
   ("extend", wordExtenders),
   ("extendnumlet", wordConnectors), ("ex", wordConnectors),
   ("format", wordFormat), ("fo", wordFormat),
   ("hebrewletter", hebrewLetters), ("hl", hebrewLetters),
   ("katakana", katakana), ("ka", katakana),
   ("aletter", wordLetters), ("le", wordLetters),
   ("midletter", middleOfLetters), ("ml", middleOfLetters),
   ("midnum", middleOfNumbers), ("mn", middleOfNumbers),
   ("midnumlet", middleOfBoth), ("mb", middleOfBoth),
   ("numeric", numericDigits), ("nu", numericDigits),
   ("regionalindicator", regionalIndicator), ("ri", regionalIndicator),
   ("wsegspace", wordBlanks), ("zwj", wideJoiner)]

/-- The characters of a class for the boundaries of words. -/
def wordBreakSet? (name : String) : Option CodeSet := wordBreaks.lookup name

/-! ## Sentences -/

/-- What is added to a sentence: marks of any width, and the wide joiner. -/
def sentenceExtenders : CodeSet :=
  CodeSet.unions [graphemeExtend, ofCategories ["Mc"], wideJoiner]

/-- Controls of format that do not break a sentence. -/
def sentenceFormat : CodeSet :=
  (ofCategories ["Cf"]).difference (sentenceExtenders.union numericDigits)

/-- Digits, and the separators of numbers. -/
def sentenceDigits : CodeSet := numericDigits.union (CodeSet.single 0x66C)

/-- Small letters, without those of Georgian, which have no case in a sentence. -/
def sentenceLower : CodeSet := lowercase.difference (graphemeExtend.union georgianSmall)

/-- Capital letters, without those of Georgian. -/
def sentenceUpper : CodeSet :=
  (uppercase.union (ofCategories ["Lt"])).difference
    (CodeSet.ofRanges [(0x1C90, 0x1CBA), (0x1CBD, 0x1CBF)])

/-- Letters without case. -/
def sentenceLetters : CodeSet :=
  (alphabetic.union (CodeSet.single 0x5F3)).difference
    (CodeSet.unions [sentenceLower, sentenceUpper, sentenceExtenders, sentenceDigits])

/-- Full stops, which do not always end a sentence. -/
def fullStops : CodeSet := ofMembers [0x2E, 0x2024, 0xFE52, 0xFF0E]

/-- Signs that always end a sentence. -/
def sentenceEnds : CodeSet := sentenceTerminal.difference fullStops

/-- Signs after which a sentence goes on. -/
def sentenceContinuers : CodeSet :=
  CodeSet.ofRanges
    [(0x2C, 0x2D), (0x3A, 0x3B), (0x37E, 0x37E), (0x55D, 0x55D), (0x60C, 0x60D), (0x7F8, 0x7F8),
     (0x1802, 0x1802), (0x1808, 0x1808), (0x2013, 0x2014), (0x3001, 0x3001), (0xFE10, 0xFE11),
     (0xFE13, 0xFE14), (0xFE31, 0xFE32), (0xFE50, 0xFE51), (0xFE54, 0xFE55), (0xFE58, 0xFE58),
     (0xFE63, 0xFE63), (0xFF0C, 0xFF0D), (0xFF1A, 0xFF1B), (0xFF64, 0xFF64)]

/-- Brackets and quotation marks. -/
def sentenceBrackets : CodeSet :=
  ((ofCategories ["Ps", "Pe", "Pi", "Pf"]).union (CodeSet.ofRanges
      [(0x22, 0x22), (0x27, 0x27), (0x275B, 0x2760), (0x2E00, 0x2E01), (0x2E06, 0x2E08),
       (0x2E0B, 0x2E0B), (0x1F676, 0x1F678)])).difference
    (sentenceEnds.union fullStops)

/-- Line ends other than the return and the line feed, and without the older controls. -/
def sentenceLineEnds : CodeSet := ofMembers [0x85, 0x2028, 0x2029]

/-- Blanks that end no line. -/
def sentenceBlanks : CodeSet := blank.difference (ofMembers [10, 13, 0x85, 0x2028, 0x2029])

/-- The classes for the boundaries of sentences, by their names in lower case. -/
def sentenceBreaks : List (String × CodeSet) :=
  [("cr", CodeSet.single 13), ("lf", CodeSet.single 10),
   ("sep", sentenceLineEnds), ("se", sentenceLineEnds),
   ("sp", sentenceBlanks),
   ("extend", sentenceExtenders), ("ex", sentenceExtenders),
   ("format", sentenceFormat), ("fo", sentenceFormat),
   ("lower", sentenceLower), ("lo", sentenceLower),
   ("upper", sentenceUpper), ("up", sentenceUpper),
   ("oletter", sentenceLetters), ("le", sentenceLetters),
   ("numeric", sentenceDigits), ("nu", sentenceDigits),
   ("aterm", fullStops), ("at", fullStops),
   ("sterm", sentenceEnds), ("st", sentenceEnds),
   ("scontinue", sentenceContinuers), ("sc", sentenceContinuers),
   ("close", sentenceBrackets), ("cl", sentenceBrackets)]

/-- The characters of a class for the boundaries of sentences. -/
def sentenceBreakSet? (name : String) : Option CodeSet := sentenceBreaks.lookup name

end ProxyFilter.Unicode
