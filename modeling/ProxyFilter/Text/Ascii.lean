/-!
# Names up to ASCII letter case

Header names, hosts and element names ignore the case of ASCII letters and of no others.
`Ascii.lower` is the lower-case form of a text and `Ascii.sameName` equality of these forms.
-/

namespace ProxyFilter.Ascii

/-- A text with its ASCII capitals in lower case. -/
def lower (s : String) : String := String.ofList (s.toList.map Char.toLower)

/-- Equality up to ASCII letter case. -/
def sameName (a b : String) : Bool := lower a == lower b

/-- A hexadecimal digit, in either letter case. -/
def isHexDigit (c : Char) : Bool :=
  c.isDigit || ('a' ≤ c && c ≤ 'f') || ('A' ≤ c && c ≤ 'F')

/-- A control character of ASCII, DEL included. -/
def isControl (c : Char) : Bool := c.toNat < 32 || c.toNat == 127

end ProxyFilter.Ascii
