/-!
# Bytes

Wire data is a list of octets. Markup, keys and encodings look at octets one at a time and know
ASCII only, so the classes here (`Byte.isSpace`, `Byte.isAlpha`, `Byte.isHexDigit`) and the letter
case (`Byte.lower`) are those of ASCII: an octet above 127 is in no class and is its own lower case.
-/

namespace ProxyFilter

/-- A run of octets as they travel on the wire. -/
abbrev Bytes := List UInt8

namespace Byte

/-- An ASCII capital letter. -/
def isUpper (b : UInt8) : Bool := 65 ≤ b && b ≤ 90

/-- An ASCII letter. -/
def isAlpha (b : UInt8) : Bool := isUpper b || (97 ≤ b && b ≤ 122)

/-- An ASCII decimal digit. -/
def isDigit (b : UInt8) : Bool := 48 ≤ b && b ≤ 57

/-- An ASCII letter or digit. -/
def isAlnum (b : UInt8) : Bool := isAlpha b || isDigit b

/-- A control octet of ASCII, DEL included. -/
def isControl (b : UInt8) : Bool := b < 32 || b == 127

/-- The blanks that separate the parts of a tag: space, tab, line feed, form feed, return. -/
def isSpace (b : UInt8) : Bool := b == 32 || b == 9 || b == 10 || b == 12 || b == 13

/-- A capital letter in lower case; any other octet is unchanged. -/
def lower (b : UInt8) : UInt8 := if isUpper b then b + 32 else b

/-- The value of a hexadecimal digit, in either letter case. -/
def hexValue? (b : UInt8) : Option Nat :=
  if isDigit b then some (b.toNat - 48)
  else if 97 ≤ b && b ≤ 102 then some (b.toNat - 87)
  else if 65 ≤ b && b ≤ 70 then some (b.toNat - 55)
  else none

end Byte

namespace Bytes

/-- Equality up to ASCII letter case. -/
def sameName (a b : Bytes) : Bool := a.map Byte.lower == b.map Byte.lower

/-- `x` begins with `p`, letter case ignored. -/
def startsWithName (p x : Bytes) : Bool := sameName p (x.take p.length)

/-- What follows the first occurrence of `needle`, with what comes before it. -/
def splitAtFirst? (needle : Bytes) : Bytes → Option (Bytes × Bytes)
  | [] => if needle.isEmpty then some ([], []) else none
  | b :: rest =>
    if needle.isPrefixOf (b :: rest) then some ([], (b :: rest).drop needle.length)
    else (splitAtFirst? needle rest).map fun (before, after) => (b :: before, after)

end Bytes

end ProxyFilter
