import ProxyFilter.Bytes

/-!
# Hexadecimal text

Two digits for each octet, high half first. Writing uses lower case; reading takes either case and
refuses an odd number of digits.
-/

namespace ProxyFilter.Hex

/-- The digit of a number below sixteen, a letter in lower case. -/
def digit (n : Nat) : Char := if n < 10 then Char.ofNat (48 + n) else Char.ofNat (87 + n)

/-- The two digits of an octet. -/
def digitsOf (b : UInt8) : List Char := [digit (b.toNat / 16), digit (b.toNat % 16)]

/-- The octets as text, two digits each. -/
def encode (b : Bytes) : String := String.ofList (b.flatMap digitsOf)

/-- The value of a hexadecimal digit, in either letter case. -/
def value? (c : Char) : Option Nat :=
  if c.toNat < 128 then Byte.hexValue? (UInt8.ofNat c.toNat) else none

/-- The octets that pairs of digits stand for. -/
def decodeChars? : List Char → Option Bytes
  | [] => some []
  | [_] => none
  | a :: b :: rest => do
    let high ← value? a
    let low ← value? b
    let bytes ← decodeChars? rest
    return UInt8.ofNat (16 * high + low) :: bytes

/-- The octets that a text of hexadecimal digits stands for. -/
def decode? (s : String) : Option Bytes := decodeChars? s.toList

end ProxyFilter.Hex
