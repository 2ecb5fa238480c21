/-!
# Blank characters

The Unicode property `White_Space` (`isBlank`), and what is defined through it: a text without the
blanks at its ends (`trim`), and the words that blanks separate (`words`).
-/

namespace ProxyFilter.Text

/-- The twenty-five characters with the Unicode property `White_Space`. -/
def isBlank (c : Char) : Bool :=
  let n := c.toNat
  (9 ≤ n && n ≤ 13) || n == 0x20 || n == 0x85 || n == 0xA0 || n == 0x1680
    || (0x2000 ≤ n && n ≤ 0x200A) || n == 0x2028 || n == 0x2029 || n == 0x202F || n == 0x205F
    || n == 0x3000

/-- `cs` without the characters at its end that satisfy `p`. -/
def dropEndWhile (p : Char → Bool) (cs : List Char) : List Char :=
  (cs.reverse.dropWhile p).reverse

/-- `cs` without the blanks at either end. -/
def trimChars (cs : List Char) : List Char := dropEndWhile isBlank (cs.dropWhile isBlank)

/-- A text without the blanks at either end. -/
def trim (s : String) : String := String.ofList (trimChars s.toList)

/-- A text without the blanks it begins with. -/
def trimStart (s : String) : String := String.ofList (s.toList.dropWhile isBlank)

/-- The longest blank-free runs of `cs`, in order. -/
def wordsOf (cs : List Char) : List (List Char) := (cs.splitOnP isBlank).filter (! ·.isEmpty)

/-- The words of a text: its longest runs without a blank. -/
def words (s : String) : List String := (wordsOf s.toList).map String.ofList

end ProxyFilter.Text
