import ProxyFilter.Decimal.Shortest

/-!
# JSON values

A number is kept as an integer where it is written as one and fits in sixty-four bits, and as a
double otherwise. `Json.text` writes a value in one line.
-/

namespace ProxyFilter

/-- A number of a JSON text. -/
inductive Json.Number
  /-- An integer from 0 up to `2 ^ 64 - 1`. -/
  | natural (n : Nat)
  /-- An integer from `-2 ^ 63` up to -1. -/
  | negative (n : Int)
  /-- Any other number. -/
  | real (x : Float)

/-- A JSON value. An object holds each key once. -/
inductive Json
  | null
  | bool (b : Bool)
  | number (n : Json.Number)
  | string (s : String)
  | array (items : List Json)
  | object (members : List (String × Json))

namespace Json

/-- The members of an object. -/
def members? : Json → Option (List (String × Json))
  | object members => some members
  | _ => none

/-- The text of a string. -/
def string? : Json → Option String
  | string s => some s
  | _ => none

/-- The member of an object with a key. -/
def get? (v : Json) (key : String) : Option Json := v.members?.bind (·.lookup key)

/-- The integer of a number that sixty-four bits with a sign can hold. -/
def int64? : Json → Option Int
  | number (.natural n) => if n < 1 <<< 63 then some n else none
  | number (.negative n) => some n
  | _ => none

/-- With a member added, in place of one with the same key. -/
def insertMember (key : String) (v : Json) : List (String × Json) → List (String × Json)
  | [] => [(key, v)]
  | (k, w) :: rest => if k = key then (k, v) :: rest else (k, w) :: insertMember key v rest

/-! ## Writing -/

/-- A decimal without sign. Up to sixteen places before the point and four zeros after it the
notation is positional, with at least one digit after the point; beyond it is scientific. -/
def decimalText (d : Decimal.Scaled) : String :=
  let digits := Nat.toDigits 10 d.digits
  let n := digits.length
  let point : Int := n + d.exponent
  if 0 ≤ d.exponent ∧ point ≤ 16 then
    String.ofList (digits ++ List.replicate d.exponent.toNat '0' ++ ['.', '0'])
  else if 0 < point ∧ point ≤ 16 then
    String.ofList (digits.take point.toNat ++ '.' :: digits.drop point.toNat)
  else if -5 < point ∧ point ≤ 0 then
    String.ofList ('0' :: '.' :: List.replicate (-point).toNat '0' ++ digits)
  else
    let mantissa := if n = 1 then digits else digits.take 1 ++ '.' :: digits.drop 1
    String.ofList mantissa ++ "e" ++ toString (point - 1)

/-- A finite double in the fewest digits that read back. -/
def floatText (x : Float) : String :=
  let sign := if x.toBits.toNat ≥ 1 <<< 63 then "-" else ""
  match Decimal.ofFloat? x with
  | some b => sign ++ decimalText (Decimal.shortest b)
  | none => sign ++ "0.0"

/-- A number. -/
def Number.text : Number → String
  | natural n => toString n
  | negative n => toString n
  | real x => floatText x

/-- A character of a string. -/
def charText (c : Char) : List Char :=
  if c = '"' then ['\\', '"']
  else if c = '\\' then ['\\', '\\']
  else if c.toNat < 32 then
    ['\\', 'u', '0', '0'] ++ Nat.toDigits 16 (c.toNat / 16) ++ Nat.toDigits 16 (c.toNat % 16)
  else [c]

/-- A string with its quotes. -/
def stringText (s : String) : String :=
  String.ofList ('"' :: s.toList.flatMap charText ++ ['"'])

mutual

/-- A value in one line. -/
def text : Json → String
  | null => "null"
  | bool true => "true"
  | bool false => "false"
  | number n => n.text
  | string s => stringText s
  | array items => "[" ++ String.intercalate "," (itemTexts items) ++ "]"
  | object members => "\x7b" ++ String.intercalate "," (memberTexts members) ++ "\x7d"

/-- The items of an array. -/
def itemTexts : List Json → List String
  | [] => []
  | v :: rest => text v :: itemTexts rest

/-- The members of an object. -/
def memberTexts : List (String × Json) → List String
  | [] => []
  | (k, v) :: rest => (stringText k ++ ":" ++ text v) :: memberTexts rest

end

end Json

end ProxyFilter
