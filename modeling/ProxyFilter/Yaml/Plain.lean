import ProxyFilter.Document.Basic
import ProxyFilter.Text.Decimal

/-!
# Plain scalars

A scalar without quotes is a null, a truth value, a number or a text, as the core schema of YAML 1.2
tells by its form alone (`Plain.value`): `yes` and `off` are texts. A decimal integer that
sixty-four bits with a sign cannot hold is a decimal, and a number of another base a text.
`Plain.mayBegin` tells whether a scalar without quotes can begin at a character, and
`standsAlone` whether a mark has a meaning where it stands.
-/

namespace ProxyFilter.Yaml.Plain

/-! ## Values -/

/-- The number that digits of a base stand for. -/
def inBase? (base : Nat) (digits : List Char) : Option Nat :=
  if digits.isEmpty then none
  else
    digits.foldlM (fun n c =>
      let d := if c.isDigit then c.toNat - 48 else if c.isLower then c.toNat - 87 else c.toNat - 55
      if c.isAlphanum && d < base then some (n * base + d) else none) 0

/-- An octal or hexadecimal integer with its mark. -/
def marked? : List Char → Option Nat
  | '0' :: 'o' :: digits => inBase? 8 digits
  | '0' :: 'x' :: digits => inBase? 16 digits
  | _ => none

/-- A decimal integer with an optional sign. -/
def integer? : List Char → Option Int
  | '-' :: digits => (Text.natOfChars? digits).map fun n => -(n : Int)
  | '+' :: digits => (Text.natOfChars? digits).map Int.ofNat
  | digits => (Text.natOfChars? digits).map Int.ofNat

/-- A decimal `± digits · 10 ^ exponent` as it is written. -/
structure Decimal where
  minus : Bool
  digits : List Char
  exponent : Int
  deriving DecidableEq, Repr

/-- The exponent at the end of a decimal, which may be left out. -/
def exponent? : List Char → Option Int
  | [] => some 0
  | e :: rest => if e = 'e' ∨ e = 'E' then integer? rest else none

/-- A number with a point or an exponent, or without either. -/
def Decimal.parse? (text : List Char) : Option Decimal := do
  let (minus, unsigned) := match text with
    | '-' :: rest => (true, rest)
    | '+' :: rest => (false, rest)
    | rest => (false, rest)
  let whole := unsigned.takeWhile Char.isDigit
  let (fraction, rest) := match unsigned.dropWhile Char.isDigit with
    | '.' :: rest => (rest.takeWhile Char.isDigit, rest.dropWhile Char.isDigit)
    | rest => ([], rest)
  if (whole ++ fraction).isEmpty then none
  return ⟨minus, whole ++ fraction, (← exponent? rest) - fraction.length⟩

/-- The natural number that the nearest double of a decimal is, if it is one up to `2 ^ 64`; the
last one counts as the number below it. -/
def Decimal.whole? (d : Decimal) : Option Nat :=
  let digits := d.digits.dropWhile (· == '0')
  let size : Int := digits.length + d.exponent
  if digits.isEmpty || size < -400 then some 0
  else if d.minus || 20 < size then none
  else do
    let x := Float.ofScientific (← Text.natOfChars? digits) (d.exponent < 0) d.exponent.natAbs
    if x.floor == x && x ≤ 18446744073709551616.0 then some x.toUInt64.toNat else none

/-- The text stands for a number that is infinite or none. -/
def isUnbounded (text : String) : Bool :=
  [".inf", ".Inf", ".INF", "+.inf", "+.Inf", "+.INF", "-.inf", "-.Inf", "-.INF", ".nan", ".NaN",
    ".NAN"].contains text

/-- The value of a scalar that is a number or a text. -/
def number (text : String) : Document :=
  match marked? text.toList, integer? text.toList with
  | some n, _ => if n ≤ Text.int64Max then .integer n else .text text
  | none, some n =>
    if Text.int64Min ≤ n ∧ n ≤ Text.int64Max then .integer n
    else .decimal ((Decimal.parse? text.toList).bind Decimal.whole?)
  | none, none =>
    match Decimal.parse? text.toList with
    | some d => .decimal d.whole?
    | none => if isUnbounded text then .decimal none else .text text

/-- The value of a scalar without quotes. -/
def value (text : String) : Document :=
  if ["", "~", "null", "Null", "NULL"].contains text then .null
  else if ["true", "True", "TRUE"].contains text then .bool true
  else if ["false", "False", "FALSE"].contains text then .bool false
  else number text

/-! ## Characters -/

/-- What a scalar stands in. -/
inductive Context
  /-- A collection that indentation shows. -/
  | block
  /-- A collection in brackets or braces. -/
  | flow
  deriving DecidableEq, Repr

/-- A space or a tab. -/
def isBlank (c : Char) : Bool := c == ' ' || c == '\t'

/-- A line feed, or a return that no line feed follows. -/
def isBreak (c : Char) : Bool := c == '\n' || c == '\r'

/-- A character that has a meaning between brackets or braces. -/
def isFlowMark (c : Char) : Bool := [',', '[', ']', '{', '}'].contains c

/-- A mark that stands before `rest` stands alone, so that it has a meaning. -/
def standsAlone (context : Context) (rest : List Char) : Bool :=
  match rest with
  | [] => true
  | c :: _ => isBlank c || isBreak c || (context == .flow && isFlowMark c)

/-- A scalar without quotes can begin here. -/
def mayBegin (context : Context) : List Char → Bool
  | [] => false
  | c :: rest =>
    if c = '-' ∨ c = '?' ∨ c = ':' then ! standsAlone context rest
    else if c = '|' ∨ c = '>' then context == .flow
    else
      ! (isFlowMark c || isBlank c || isBreak c || ['#', '&', '*', '!', '\'', '"'].contains c)

/-- A scalar without quotes ends before this character of its line: a comment ends it, a colon that
stands alone before the end of the text, and in flow a mark. -/
def endsBefore (context : Context) (afterBlank : Bool) (c : Char) (rest : List Char) : Bool :=
  isBreak c || (c == '#' && afterBlank)
    || (c == ':' && ! rest.isEmpty && standsAlone context rest)
    || (context == .flow && isFlowMark c)

end ProxyFilter.Yaml.Plain
