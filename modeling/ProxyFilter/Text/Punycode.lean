/-!
# Punycode

International names as ASCII: the ASCII characters of a name, a hyphen, and a number in base 36 for
each place at which another character is put in. The digits of a number have weights that follow a
`bias`, which is adapted after each of them, so that likely numbers are short.
-/

namespace ProxyFilter.Punycode

/-- The least digit that ends a number, at the position `k` for a bias. -/
def threshold (k bias : Nat) : Nat :=
  if k ≤ bias then 1 else if bias + 26 ≤ k then 26 else k - bias

/-- Divides `delta` until it is small, and gives the bias for it. -/
def biasOf : Nat → Nat → Nat → Nat
  | 0, _, k => k
  | fuel + 1, delta, k =>
    if 455 < delta then biasOf fuel (delta / 35) (k + 36) else k + 36 * delta / (delta + 38)

/-- The bias after a number, where so many characters have been placed. -/
def adapt (delta placed : Nat) (first : Bool) : Nat :=
  let delta := if first then delta / 700 else delta / 2
  biasOf 64 (delta + delta / placed) 0

/-- The value of a digit. -/
def digitValue? (c : Char) : Option Nat :=
  if c.isLower then some (c.toNat - 97)
  else if c.isUpper then some (c.toNat - 65)
  else if c.isDigit then some (c.toNat - 22)
  else none

/-- The digit with a value. -/
def digit (n : Nat) : Char := if n < 26 then Char.ofNat (97 + n) else Char.ofNat (22 + n)

/-- How far a name has been decoded. -/
structure DecodeState where
  /-- The characters so far. -/
  out : List Char
  /-- The last character that was put in. -/
  code : Nat
  /-- Where the next character goes. -/
  place : Nat
  bias : Nat
  /-- The place before the number that is being read. -/
  former : Nat
  /-- The weight of the next digit. -/
  weight : Nat
  /-- The position of the next digit. -/
  position : Nat

/-- Puts in the character of a number that has been read. -/
def DecodeState.insert? (s : DecodeState) : Option DecodeState :=
  let size := s.out.length + 1
  let code := s.code + s.place / size
  let place := s.place % size
  if h : code.isValidChar then
    some { out := s.out.take place ++ Char.ofNatAux code h :: s.out.drop place, code,
           place := place + 1, bias := adapt (s.place - s.former) size (s.former = 0),
           former := place + 1, weight := 1, position := 36 }
  else none

/-- Reads one digit. Places and weights fit in thirty-two bits. -/
def DecodeState.read? (s : DecodeState) (c : Char) : Option DecodeState := do
  let n ← digitValue? c
  let place := s.place + n * s.weight
  if place ≥ UInt32.size then none
  let t := threshold s.position s.bias
  if n < t then DecodeState.insert? { s with place }
  else
    let weight := s.weight * (36 - t)
    if weight ≥ UInt32.size then none
    else some { s with place, weight, position := s.position + 36 }

/-- The ASCII characters of an encoded name, and its digits. -/
def parts (cs : List Char) : List Char × List Char :=
  let tail := (cs.reverse.takeWhile (· != '-')).reverse
  let head := (cs.take (cs.length - tail.length)).dropLast
  if head.isEmpty then ([], cs) else (head, tail)

/-- The name that an encoded name stands for. -/
def decode? (cs : List Char) : Option (List Char) := do
  let (head, digits) := parts cs
  let s ← digits.foldlM DecodeState.read? ⟨head, 128, 0, 72, 0, 1, 36⟩
  if s.position = 36 then some s.out else none

/-- The digits of a number for a bias. -/
def numberDigits (bias : Nat) : Nat → Nat → Nat → List Char
  | 0, _, _ => []
  | fuel + 1, position, n =>
    let t := threshold position bias
    if n < t then [digit n]
    else digit (t + (n - t) % (36 - t))
      :: numberDigits bias fuel (position + 36) ((n - t) / (36 - t))

/-- How far a name has been encoded. -/
structure EncodeState where
  /-- The digits so far. -/
  out : List Char
  /-- The places passed since the last character. -/
  delta : Nat
  bias : Nat
  /-- How many characters have been placed. -/
  placed : Nat
  /-- No number has been written yet. -/
  first : Bool

/-- Passes one character of the name in the round for the character `code`. -/
def EncodeState.pass (code : Nat) (s : EncodeState) (c : Char) : EncodeState :=
  if c.toNat < code then { s with delta := s.delta + 1 }
  else if c.toNat = code then
    { out := s.out ++ numberDigits s.bias 64 36 s.delta, delta := 0,
      bias := adapt s.delta (s.placed + 1) s.first, placed := s.placed + 1, first := false }
  else s

/-- The rounds for some characters in ascending order, where `next` is the least one not done. -/
def rounds (cs : List Char) : Nat → EncodeState → List Nat → EncodeState
  | _, s, [] => s
  | next, s, code :: rest =>
    let s := { s with delta := s.delta + (code - next) * (s.placed + 1) }
    let s := cs.foldl (EncodeState.pass code) s
    rounds cs (code + 1) { s with delta := s.delta + 1 } rest

/-- A name encoded in ASCII. -/
def encode (cs : List Char) : List Char :=
  let ascii := cs.filter (·.toNat < 128)
  let others := ((cs.map Char.toNat).filter (128 ≤ ·)).eraseDups.mergeSort
  let s := rounds cs 128 ⟨[], 0, 72, ascii.length, true⟩ others
  (if ascii.isEmpty then [] else ascii ++ ['-']) ++ s.out

end ProxyFilter.Punycode
