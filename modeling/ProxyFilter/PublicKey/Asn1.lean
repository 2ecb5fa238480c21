import ProxyFilter.Text.Utf8

/-!
# ASN.1 values

A key file holds ASN.1 values, each an identifier, a length and a body. `Asn1.parse?` reads all
values of a run of octets and looks into sequences and sets. Of each value only what tells keys
apart is kept (`Asn1.Value`), but every body is checked for the form that its type asks for: texts
are encoded correctly, dates exist, and no sequence is empty. Lengths may be written in more octets
than they need.
-/

namespace ProxyFilter.Asn1

/-- What is kept of a value. -/
inductive Value
  /-- A sequence of values. -/
  | sequence (items : List Value)
  /-- The octets of a bit string. -/
  | bits (b : Bytes)
  /-- The octets of an octet string. -/
  | octets (b : Bytes)
  /-- The numbers of an object identifier. -/
  | identifier (arcs : List Nat)
  /-- Anything else. -/
  | other

/-! ## Identifiers and lengths -/

/-- Reads a number in groups of seven bits, of which the last has its high bit clear. -/
def base128? (n : Nat) : Bytes → Option (Nat × Bytes)
  | [] => none
  | b :: rest =>
    let n := n * 128 + b.toNat % 128
    if b < 128 then some (n, rest) else base128? n rest

/-- The first octets of a value. -/
structure Heading where
  /-- The type is one of ASN.1's own. -/
  universal : Bool
  /-- The number of the type. -/
  number : Nat
  /-- The number of octets of the body. -/
  size : Nat
  deriving DecidableEq, Repr

/-- The number that octets stand for, the highest first. -/
def bigEndian (b : Bytes) : Nat := b.foldl (fun n x => n * 256 + x.toNat) 0

/-- Reads a length: up to 127 in one octet, else the number of octets and then these. -/
def length? : Bytes → Option (Nat × Bytes)
  | [] => none
  | b :: rest =>
    if b < 128 then some (b.toNat, rest)
    else
      let count := b.toNat - 128
      if count ≤ 8 ∧ count ≤ rest.length then some (bigEndian (rest.take count), rest.drop count)
      else none

/-- Reads the identifier and the length of a value. -/
def heading? : Bytes → Option (Heading × Bytes)
  | [] => none
  | b :: rest => do
    let (number, rest) ← if b.toNat % 32 = 31 then base128? 0 rest else some (b.toNat % 32, rest)
    let (size, rest) ← length? rest
    return (⟨b.toNat / 64 = 0, number, size⟩, rest)

/-! ## Bodies -/

/-- The first two numbers of an object identifier, which share an octet. -/
def firstArcs (b : UInt8) : List Nat :=
  if b < 40 then [0, b.toNat] else if b < 80 then [1, b.toNat - 40] else [2, b.toNat - 80]

/-- The other numbers of an object identifier, `fuel` at most. -/
def moreArcs? : Nat → Bytes → Option (List Nat)
  | _, [] => some []
  | 0, _ => none
  | fuel + 1, b => do
    let (n, rest) ← base128? 0 b
    return n :: (← moreArcs? fuel rest)

/-- The body of an object identifier. -/
def identifier? : Bytes → Option Value
  | [] => none
  | b :: rest => (moreArcs? rest.length rest).map fun arcs => .identifier (firstArcs b ++ arcs)

/-- The body of a bit string: the number of unused bits, then the octets. -/
def bits? : Bytes → Option Value
  | [] => some (.bits [])
  | unused :: rest => if unused.toNat ≤ 8 * rest.length then some (.bits rest) else none

/-- The octets of printable strings. -/
def isPrintable (b : UInt8) : Bool :=
  Byte.isAlnum b || (Utf8.encode " '()+,-./:=?").contains b

/-- The number of days of a month. -/
def daysInMonth (year month : Nat) : Nat :=
  if month = 2 then
    if year % 4 = 0 ∧ (year % 100 ≠ 0 ∨ year % 400 = 0) then 29 else 28
  else if [4, 6, 9, 11].contains month then 30
  else 31

/-- Fourteen digits of year, month, day, hour, minute and second are a moment that exists. -/
def isMoment (b : Bytes) : Bool :=
  let part (start size : Nat) : Nat :=
    ((b.drop start).take size).foldl (fun n x => n * 10 + (x.toNat - 48)) 0
  let year := part 0 4
  let month := part 4 2
  let day := part 6 2
  b.length == 14 && b.all Byte.isDigit && 1 ≤ month && month ≤ 12
    && 1 ≤ day && day ≤ daysInMonth year month
    && part 8 2 ≤ 23 && part 10 2 ≤ 59 && part 12 2 ≤ 59

/-- A date with a year of two digits, of which the first fifty are after 2000. -/
def isShortDate (b : Bytes) : Bool :=
  let century := if b.take 1 < [53] then [50, 48] else [49, 57]
  b.length == 13 && b.drop 12 == [90] && isMoment (century ++ b.take 12)

/-- A date in the full form: the point of a fraction is put in after the seconds where there is
none, and zeros before the last octet until there are twenty-five octets. -/
def fullDate (b : Bytes) : Bytes :=
  let dotted := if b.contains 46 then b else b.take 14 ++ 46 :: b.drop 14
  dotted.dropLast ++ List.replicate (25 - dotted.length) 48 ++ dotted.drop (dotted.length - 1)

/-- A date with a year of four digits, which may have a sign, and perhaps fractions of a second. -/
def isLongDate (b : Bytes) : Bool :=
  let date := match fullDate b with
    | 43 :: unsigned | 45 :: unsigned => unsigned
    | unsigned => unsigned
  let fraction := (date.drop 15).dropLast
  15 ≤ b.length && isMoment (date.take 14) && (date.drop 14).head? == some 46
    && ! fraction.isEmpty && fraction.all Byte.isDigit && date.getLast? == some 90

/-- The body of a value of one of ASN.1's own types that holds no values. -/
def simple? (number : Nat) (body : Bytes) : Option Value :=
  let checked (holds : Bool) : Option Value := if holds then some .other else none
  match number with
  | 1 => checked (body.length == 1)
  | 3 => bits? body
  | 4 => some (.octets body)
  | 6 => identifier? body
  | 12 | 20 | 28 | 30 => checked (Utf8.decode? body).isSome
  | 19 => checked (body.all isPrintable)
  | 23 => checked (isShortDate body)
  | 24 => checked (isLongDate body)
  | _ => some .other

/-! ## Values -/

/-- Reads all values of a run of octets, of which there must be one at least. `fuel` bounds the
values in a row and the levels together. -/
def values? : Nat → Bytes → Option (List Value)
  | 0, _ => none
  | fuel + 1, b => do
    let (h, rest) ← heading? b
    if rest.length < h.size then none
    let body := rest.take h.size
    let value ←
      if ! h.universal then some .other
      else if h.number = 16 then (values? fuel body).map Value.sequence
      else if h.number = 17 then (values? fuel body).map fun _ => .other
      else simple? h.number body
    match rest.drop h.size with
    | [] => return [value]
    | after => return value :: (← values? fuel after)

/-- Reads all values of a run of octets. -/
def parse? (b : Bytes) : Option (List Value) := values? (b.length + 1) b

mutual

/-- The first bit string or octet string of a value, sequences gone through in order. -/
def Value.firstString? : Value → Option Bytes
  | .sequence items => firstStringOf? items
  | .bits b | .octets b => some b
  | _ => none

/-- The first bit string or octet string of some values. -/
def firstStringOf? : List Value → Option Bytes
  | [] => none
  | v :: rest =>
    match v.firstString? with
    | some b => some b
    | none => firstStringOf? rest

end

mutual

/-- The first object identifier of a value that is among the given ones. -/
def Value.firstIdentifier? (known : List (List Nat)) : Value → Option (List Nat)
  | .sequence items => firstIdentifierOf? known items
  | .identifier arcs => if known.contains arcs then some arcs else none
  | _ => none

/-- The first object identifier of some values that is among the given ones. -/
def firstIdentifierOf? (known : List (List Nat)) : List Value → Option (List Nat)
  | [] => none
  | v :: rest =>
    match v.firstIdentifier? known with
    | some arcs => some arcs
    | none => firstIdentifierOf? known rest

end

end ProxyFilter.Asn1
