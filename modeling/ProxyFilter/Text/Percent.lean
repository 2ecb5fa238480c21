import ProxyFilter.Text.Utf8
import ProxyFilter.Text.Hex

/-!
# Percent-encoding

`Percent.encode` keeps the unreserved characters (letters, digits and `-._~`) and writes every
other octet as `%` and two capital hexadecimal digits. `Percent.decode` undoes such escapes, leaves
a `%` that begins none as it stands, and shows octets that are not UTF-8 as U+FFFD.
-/

namespace ProxyFilter.Percent

/-- The octets that stand for themselves in an encoded component. -/
def isUnreserved (b : UInt8) : Bool := Byte.isAlnum b || b == 45 || b == 46 || b == 95 || b == 126

/-- The escape of an octet. -/
def escape (b : UInt8) : List Char := '%' :: (Hex.digitsOf b).map Char.toUpper

/-- A component of a query with all but the unreserved characters escaped. -/
def encode (s : String) : String :=
  String.ofList ((Utf8.encode s).flatMap fun b =>
    if isUnreserved b then [Char.ofNat b.toNat] else escape b)

/-- The octets of a component once its escapes are undone. -/
def decodeBytes : Bytes → Bytes
  | [] => []
  | b :: rest =>
    if b = 37 then
      match rest with
      | h :: l :: rest₂ =>
        match Byte.hexValue? h, Byte.hexValue? l with
        | some high, some low => UInt8.ofNat (16 * high + low) :: decodeBytes rest₂
        | _, _ => b :: decodeBytes (h :: l :: rest₂)
      | [l] => b :: decodeBytes [l]
      | [] => [b]
    else b :: decodeBytes rest

/-- A component of a query with its escapes undone. -/
def decode (s : String) : String := Utf8.decodeLossy (decodeBytes (Utf8.encode s))

end ProxyFilter.Percent
