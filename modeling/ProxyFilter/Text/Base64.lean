import ProxyFilter.Bytes

/-!
# Base64

An `Alphabet` names the characters for the values 62 and 63; the others are the letters and digits
in both alphabets. Text is written and read in groups of four characters for three octets. A last
group of two or three characters stands for one or two octets, is filled up with `=` where padding
is used, and must leave its unused bits zero.
-/

namespace ProxyFilter.Base64

/-- The two characters in which base64 alphabets differ. -/
structure Alphabet where
  /-- The character for 62. -/
  char62 : Char
  /-- The character for 63. -/
  char63 : Char

/-- The alphabet with `+` and `/`. -/
def Alphabet.standard : Alphabet := ⟨'+', '/'⟩

/-- The alphabet with `-` and `_`, which need no escaping in a URL. -/
def Alphabet.urlSafe : Alphabet := ⟨'-', '_'⟩

/-- Whether a text is filled up with `=` to a multiple of four characters. -/
inductive Padding
  /-- Filled up, always. -/
  | required
  /-- Never filled up. -/
  | none
  deriving DecidableEq, Repr

/-- The character for a value below sixty-four. -/
def Alphabet.char (a : Alphabet) (n : Nat) : Char :=
  if n < 26 then Char.ofNat (65 + n)
  else if n < 52 then Char.ofNat (71 + n)
  else if n < 62 then Char.ofNat (n - 4)
  else if n = 62 then a.char62
  else a.char63

/-- The value of a character of the alphabet. -/
def Alphabet.value? (a : Alphabet) (c : Char) : Option Nat :=
  if c.isUpper then some (c.toNat - 65)
  else if c.isLower then some (c.toNat - 71)
  else if c.isDigit then some (c.toNat + 4)
  else if c = a.char62 then some 62
  else if c = a.char63 then some 63
  else Option.none

/-- The `=` signs of a padded text, or nothing. -/
def Padding.fill : Padding → Nat → List Char
  | .required, n => List.replicate n '='
  | .none, _ => []

/-- The characters for a run of octets. -/
def encodeChars (a : Alphabet) (p : Padding) : Bytes → List Char
  | [] => []
  | [x] => [a.char (x.toNat / 4), a.char (x.toNat % 4 * 16)] ++ p.fill 2
  | [x, y] =>
    [a.char (x.toNat / 4), a.char (x.toNat % 4 * 16 + y.toNat / 16), a.char (y.toNat % 16 * 4)]
      ++ p.fill 1
  | x :: y :: z :: rest =>
    a.char (x.toNat / 4) :: a.char (x.toNat % 4 * 16 + y.toNat / 16)
      :: a.char (y.toNat % 16 * 4 + z.toNat / 64) :: a.char (z.toNat % 64)
      :: encodeChars a p rest

/-- Octets as base64 text. -/
def encode (a : Alphabet) (p : Padding) (b : Bytes) : String := String.ofList (encodeChars a p b)

/-- The octet of a last group of two characters. -/
def lastOne? (a : Alphabet) (c d : Char) : Option Bytes := do
  let u ← a.value? c
  let v ← a.value? d
  if v % 16 = 0 then some [UInt8.ofNat (u * 4 + v / 16)] else Option.none

/-- The octets of a last group of three characters. -/
def lastTwo? (a : Alphabet) (c d e : Char) : Option Bytes := do
  let u ← a.value? c
  let v ← a.value? d
  let w ← a.value? e
  if w % 4 = 0 then some [UInt8.ofNat (u * 4 + v / 16), UInt8.ofNat (v % 16 * 16 + w / 4)]
  else Option.none

/-- The octets of a full group of four characters. -/
def group? (a : Alphabet) (c d e f : Char) : Option Bytes := do
  let u ← a.value? c
  let v ← a.value? d
  let w ← a.value? e
  let x ← a.value? f
  return [UInt8.ofNat (u * 4 + v / 16), UInt8.ofNat (v % 16 * 16 + w / 4),
    UInt8.ofNat (w % 4 * 64 + x)]

/-- The octets that base64 characters stand for. -/
def decodeChars? (a : Alphabet) (p : Padding) : List Char → Option Bytes
  | [] => some []
  | [_] => Option.none
  | [c, d] => if p = .none then lastOne? a c d else Option.none
  | [c, d, e] => if p = .none then lastTwo? a c d e else Option.none
  | c :: d :: e :: f :: rest =>
    if p = .required ∧ rest = [] ∧ f = '=' then
      if e = '=' then lastOne? a c d else lastTwo? a c d e
    else do
      let bytes ← group? a c d e f
      let more ← decodeChars? a p rest
      return bytes ++ more

/-- The octets that a base64 text stands for. -/
def decode? (a : Alphabet) (p : Padding) (s : String) : Option Bytes := decodeChars? a p s.toList

end ProxyFilter.Base64
