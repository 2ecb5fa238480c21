import ProxyFilter.Json.Value
import ProxyFilter.Text.Utf8

/-!
# JSON texts

A JSON text is read in two steps. `Json.Node.parse?` checks the grammar alone and keeps what the
grammar lets through: numbers as digits, strings that may not be Unicode, every member of an object
in order. `Json.Node.toValue?` then asks for a value: numbers in range, Unicode strings, at most
127 levels, and of equal keys the last one. A reader of settings works on nodes, because what it
skips only has to keep to the grammar.
-/

namespace ProxyFilter.Json

/-- A number as it is written. -/
structure Literal where
  /-- There is a minus sign. -/
  minus : Bool
  /-- The digits before the point. -/
  whole : List Nat
  /-- The digits after the point; none if there is no point. -/
  fraction : List Nat
  /-- The exponent: whether it has a minus sign, and its digits. -/
  exponent : Option (Bool × List Nat)
  deriving DecidableEq, Repr

/-- A JSON text taken apart. A string is `none` if its octets and escapes are not Unicode. -/
inductive Node
  | null
  | bool (b : Bool)
  | number (n : Literal)
  | string (s : Option String)
  | array (items : List Node)
  | object (members : List (Option String × Node))

namespace Node

/-! ## Tokens -/

/-- The octets after the blanks they begin with: space, tab, line feed, return. -/
def skipBlanks (b : Bytes) : Bytes :=
  b.dropWhile fun x => x == 32 || x == 9 || x == 10 || x == 13

/-- The digits that octets begin with, and the rest. -/
def digits (b : Bytes) : List Nat × Bytes :=
  ((b.takeWhile Byte.isDigit).map fun x => x.toNat - 48, b.dropWhile Byte.isDigit)

/-- The rest after an exponent mark: a sign and at least one digit. -/
def exponent? (b : Bytes) : Option ((Bool × List Nat) × Bytes) :=
  let (minus, b) := match b with
    | 43 :: rest => (false, rest)
    | 45 :: rest => (true, rest)
    | b => (false, b)
  match digits b with
  | ([], _) => none
  | (ds, rest) => some ((minus, ds), rest)

/-- Reads the fraction of a number, if there is one. -/
def fraction? (b : Bytes) : Option (List Nat × Bytes) :=
  match b with
  | 46 :: rest =>
    match digits rest with
    | ([], _) => none
    | (ds, rest) => some (ds, rest)
  | b => some ([], b)

/-- Reads a number after its minus sign. A first zero is the only digit before the point. -/
def literal? (minus : Bool) (b : Bytes) : Option (Literal × Bytes) := do
  let (whole, b) := digits b
  if whole.isEmpty || (whole.head? == some 0 && whole.length > 1) then none
  let (fraction, b) ← fraction? b
  match b with
  | 101 :: rest | 69 :: rest =>
    let (e, rest) ← exponent? rest
    return (⟨minus, whole, fraction, some e⟩, rest)
  | b => return (⟨minus, whole, fraction, none⟩, b)

/-- Reads four hexadecimal digits. -/
def hex4? : Bytes → Option (Nat × Bytes)
  | a :: b :: c :: d :: rest => do
    let w ← Byte.hexValue? a
    let x ← Byte.hexValue? b
    let y ← Byte.hexValue? c
    let z ← Byte.hexValue? d
    return (w * 4096 + x * 256 + y * 16 + z, rest)
  | _ => none

/-- The octet that a one-letter escape stands for. -/
def simpleEscape? (b : UInt8) : Option UInt8 :=
  match b with
  | 34 => some 34
  | 92 => some 92
  | 47 => some 47
  | 98 => some 8
  | 102 => some 12
  | 110 => some 10
  | 114 => some 13
  | 116 => some 9
  | _ => none

/-- The second half of a pair that octets begin with. -/
def lowSurrogate? (b : Bytes) : Option (Nat × Bytes) :=
  match b with
  | 92 :: 117 :: rest =>
    (hex4? rest).filter fun (n, _) => decide (0xDC00 ≤ n) && decide (n ≤ 0xDFFF)
  | _ => none

/-- A string read so far: its octets reversed, or nothing once it cannot be Unicode. -/
abbrev Gathered := Option (List UInt8)

/-- One more character. -/
def Gathered.push (g : Gathered) (n : Nat) : Gathered :=
  g.map fun bytes => (String.utf8EncodeChar (Char.ofNat n)).reverse ++ bytes

/-- The text of a finished string. -/
def Gathered.text? (g : Gathered) : Option String := g.bind fun bytes => Utf8.decode? bytes.reverse

/-- Reads a string after its first quote, `fuel` characters at most. -/
def stringLoop : Nat → Gathered → Bytes → Option (Option String × Bytes)
  | 0, _, _ => none
  | _, _, [] => none
  | fuel + 1, g, b :: rest =>
    if b = 34 then some (Gathered.text? g, rest)
    else if b = 92 then
      match rest with
      | [] => none
      | e :: rest =>
        if e = 117 then
          match hex4? rest with
          | none => none
          | some (n, rest) =>
            if 0xD800 ≤ n ∧ n ≤ 0xDBFF then
              match lowSurrogate? rest with
              | some (m, rest) =>
                stringLoop fuel
                  (Gathered.push g (0x10000 + (n - 0xD800) * 1024 + (m - 0xDC00))) rest
              | none => stringLoop fuel none rest
            else if 0xDC00 ≤ n ∧ n ≤ 0xDFFF then stringLoop fuel none rest
            else stringLoop fuel (Gathered.push g n) rest
        else
          match simpleEscape? e with
          | some x => stringLoop fuel (g.map (x :: ·)) rest
          | none => none
    else if b < 32 then none
    else stringLoop fuel (g.map (b :: ·)) rest

/-- Reads a string of less than `fuel` characters after its first quote. -/
def string? (fuel : Nat) (b : Bytes) : Option (Option String × Bytes) := stringLoop fuel (some []) b

/-- What follows a word that octets begin with. -/
def afterWord? (word : String) (b : Bytes) : Option Bytes :=
  let word := Utf8.encode word
  if word.isPrefixOf b then some (b.drop word.length) else none

/-! ## Grammar -/

mutual

/-- Reads a value. -/
def value? : Nat → Bytes → Option (Node × Bytes)
  | 0, _ => none
  | fuel + 1, b =>
    match skipBlanks b with
    | [] => none
    | x :: rest =>
      if x = 34 then (string? fuel rest).map fun (s, rest) => (.string s, rest)
      else if x = 45 then (literal? true rest).map fun (n, rest) => (.number n, rest)
      else if Byte.isDigit x then
        (literal? false (x :: rest)).map fun (n, rest) => (.number n, rest)
      else if x = 91 then
        match skipBlanks rest with
        | 93 :: rest => some (.array [], rest)
        | rest => (items? fuel rest).map fun (items, rest) => (.array items, rest)
      else if x = 123 then
        match skipBlanks rest with
        | 125 :: rest => some (.object [], rest)
        | rest => (members? fuel rest).map fun (members, rest) => (.object members, rest)
      else if x = 116 then (afterWord? "true" (x :: rest)).map fun rest => (.bool true, rest)
      else if x = 102 then (afterWord? "false" (x :: rest)).map fun rest => (.bool false, rest)
      else if x = 110 then (afterWord? "null" (x :: rest)).map fun rest => (.null, rest)
      else none

/-- Reads the items of an array that is not empty, and its end. -/
def items? : Nat → Bytes → Option (List Node × Bytes)
  | 0, _ => none
  | fuel + 1, b => do
    let (item, b) ← value? fuel b
    match skipBlanks b with
    | 93 :: rest => return ([item], rest)
    | 44 :: rest =>
      let (more, rest) ← items? fuel rest
      return (item :: more, rest)
    | _ => none

/-- Reads the members of an object that is not empty, and its end. -/
def members? : Nat → Bytes → Option (List (Option String × Node) × Bytes)
  | 0, _ => none
  | fuel + 1, b => do
    match skipBlanks b with
    | 34 :: rest =>
      let (key, b) ← string? fuel rest
      match skipBlanks b with
      | 58 :: rest =>
        let (v, b) ← value? fuel rest
        match skipBlanks b with
        | 125 :: rest => return ([(key, v)], rest)
        | 44 :: rest =>
          let (more, rest) ← members? fuel rest
          return ((key, v) :: more, rest)
        | _ => none
      | _ => none
    | _ => none

end

/-- Reads a text that holds one value and blanks. -/
def parse? (b : Bytes) : Option Node :=
  match value? (2 * b.length + 2) b with
  | some (node, rest) => if (skipBlanks rest).isEmpty then some node else none
  | none => none

end Node

/-! ## Numbers -/

namespace Literal

/-- One more digit at the end of a number below `2 ^ 64`, if it stays below. -/
def pushDigit? (n d : Nat) : Option Nat :=
  if n * 10 + d < UInt64.size then some (n * 10 + d) else none

/-- The number that digits stand for as far as it stays below `2 ^ 64`, and the digits left. -/
def pushDigits (n : Nat) : List Nat → Nat × List Nat
  | [] => (n, [])
  | d :: rest =>
    match pushDigit? n d with
    | some m => pushDigits m rest
    | none => (n, d :: rest)

/-- `f · 10 ^ e` in double arithmetic: one multiplication, or divisions by at most `10 ^ 308`; no
number where the result is not finite. -/
def scaleByTen (f : Float) (e : Int) : Nat → Option Float
  | 0 => none
  | fuel + 1 =>
    if e.natAbs ≤ 308 then
      let power := Float.ofScientific 1 false e.natAbs
      if 0 ≤ e then
        let product := f * power
        if product.isInf then none else some product
      else some (f / power)
    else if f == 0 then some f
    else if 0 ≤ e then none
    else scaleByTen (f / Float.ofScientific 1 false 308) (e + 308) fuel

/-- The greatest exponent that is counted exactly. -/
def maxExponent : Nat := 2147483647

/-- The double for `significand · 10 ^ scale`, with the exponent that was written. -/
def float? (significand : Nat) (scale : Int) (exponent : Option (Bool × List Nat)) :
    Option Float :=
  let f := (UInt64.ofNat significand).toFloat
  match exponent with
  | none => scaleByTen f scale (scale.natAbs / 308 + 2)
  | some (minus, ds) =>
    let e := ds.foldl (fun n d => n * 10 + d) 0
    if e > maxExponent then
      if significand ≠ 0 ∧ ! minus then none else some 0
    else
      let e : Int := if minus then scale - e else scale + e
      let e := max (-2147483648) (min e maxExponent)
      if significand = 0 then some f else scaleByTen f e (min (e.natAbs / 308) 16 + 2)

/-- The number that a literal stands for. Digits beyond the range of sixty-four bits are not used,
and those of them before the point count as zeros. -/
def number? (n : Literal) : Option Number :=
  let (significand, unread) := pushDigits 0 n.whole
  let signed (f : Float) : Number := .real (if n.minus then -f else f)
  if n.fraction.isEmpty ∧ n.exponent.isNone ∧ unread.isEmpty then
    if ! n.minus then some (.natural significand)
    else if significand ≠ 0 ∧ significand ≤ 1 <<< 63 then some (.negative (-(significand : Int)))
    else some (signed (UInt64.ofNat significand).toFloat)
  else
    let (significand, left) := pushDigits significand n.fraction
    let scale : Int := (unread.length : Int) - (n.fraction.length - left.length : Nat)
    (float? significand scale n.exponent).map signed

end Literal

/-! ## Values -/

namespace Node

/-- The value of a text of at most `depth` levels. -/
def toValueWithin? : Nat → Node → Option Json
  | _, .null => some .null
  | _, .bool b => some (.bool b)
  | _, .number n => n.number?.map .number
  | _, .string s => s.map .string
  | 0, .array _ | 0, .object _ => none
  | depth + 1, .array items => (items.mapM (toValueWithin? depth)).map .array
  | depth + 1, .object members => do
    let members ← members.mapM fun (key, v) => do
      let key ← key
      let v ← toValueWithin? depth v
      return (key, v)
    return .object (members.foldl (fun done (k, v) => insertMember k v done) [])

/-- The most levels of arrays and objects that a value may have. -/
def maxDepth : Nat := 127

/-- The value of a text. -/
def toValue? (n : Node) : Option Json := toValueWithin? maxDepth n

end Node

/-- Reads a JSON text as a value. -/
def parse? (b : Bytes) : Option Json := (Node.parse? b).bind Node.toValue?

end ProxyFilter.Json
