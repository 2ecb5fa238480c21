import ProxyFilter.Bytes

/-!
# UTF-8

`encode` writes a text as octets. Reading splits the octets into `units`: a unit is a character,
or `none` for a longest run of octets that begins a character and cannot be completed (a run of
one octet where nothing begins). Strict reading (`decode?`) wants characters only; lossy reading
(`decodeLossy`) shows each broken run as one U+FFFD.
-/

namespace ProxyFilter.Utf8

/-- The octets of a text. -/
def encode (s : String) : Bytes := s.toList.flatMap String.utf8EncodeChar

/-- The octets `80` to `BF`, which continue a character. -/
def isTail (b : UInt8) : Bool := 0x80 ≤ b && b ≤ 0xBF

/-- The six payload bits of a continuation octet. -/
def tailBits (b : UInt8) : Nat := b.toNat - 0x80

/-- Which second octets may follow the first octet of a three-octet character: no form that has a
shorter one, and no surrogate. -/
def secondOfThree (a b : UInt8) : Bool :=
  if a == 0xE0 then 0xA0 ≤ b && b ≤ 0xBF
  else if a == 0xED then 0x80 ≤ b && b ≤ 0x9F
  else isTail b

/-- Which second octets may follow the first octet of a four-octet character: no form that has a
shorter one, and nothing above U+10FFFF. -/
def secondOfFour (a b : UInt8) : Bool :=
  if a == 0xF0 then 0x90 ≤ b && b ≤ 0xBF
  else if a == 0xF4 then 0x80 ≤ b && b ≤ 0x8F
  else isTail b

/-- The characters of a run of octets, with `none` for each broken piece. -/
def units : Bytes → List (Option Char)
  | [] => []
  | a :: rest =>
    if a < 0x80 then some (Char.ofNat a.toNat) :: units rest
    else if a < 0xC2 then none :: units rest
    else if a < 0xE0 then
      match rest with
      | [] => [none]
      | b :: rest₂ =>
        if isTail b then some (Char.ofNat ((a.toNat - 0xC0) * 64 + tailBits b)) :: units rest₂
        else none :: units (b :: rest₂)
    else if a < 0xF0 then
      match rest with
      | [] => [none]
      | b :: rest₂ =>
        if secondOfThree a b then
          match rest₂ with
          | [] => [none]
          | c :: rest₃ =>
            if isTail c then
              some (Char.ofNat ((a.toNat - 0xE0) * 4096 + tailBits b * 64 + tailBits c))
                :: units rest₃
            else none :: units (c :: rest₃)
        else none :: units (b :: rest₂)
    else if a < 0xF5 then
      match rest with
      | [] => [none]
      | b :: rest₂ =>
        if secondOfFour a b then
          match rest₂ with
          | [] => [none]
          | c :: rest₃ =>
            if isTail c then
              match rest₃ with
              | [] => [none]
              | d :: rest₄ =>
                if isTail d then
                  some (Char.ofNat ((a.toNat - 0xF0) * 262144 + tailBits b * 4096
                    + tailBits c * 64 + tailBits d)) :: units rest₄
                else none :: units (d :: rest₄)
            else none :: units (c :: rest₃)
        else none :: units (b :: rest₂)
    else none :: units rest

/-- The text of a run of octets, if every octet belongs to a character. -/
def decode? (b : Bytes) : Option String := ((units b).mapM id).map String.ofList

/-- The text of a run of octets, with U+FFFD for each broken piece. -/
def decodeLossy (b : Bytes) : String := String.ofList ((units b).map (·.getD '\uFFFD'))

/-- The first character of a run of octets and how many octets it takes. -/
def first? (b : Bytes) : Option (Char × Nat) :=
  match units (b.take 4) with
  | some c :: _ => some (c, (String.utf8EncodeChar c).length)
  | _ => none

end ProxyFilter.Utf8
