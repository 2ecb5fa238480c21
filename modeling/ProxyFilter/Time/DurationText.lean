import ProxyFilter.Text.Blank
import ProxyFilter.Time.Instant

/-!
# Durations in words

A length of time such as `1h 30m` is a sequence of amounts, each a decimal number and a unit
(`Duration.parse`). Blanks may stand around both, and between the digits of a number. Everything is
computed in sixty-four-bit numbers, and a number that does not fit is a fault (`Duration.Fault`).
Months are a twelfth of a year and years 365.25 days. A fraction of a minute or less must be a whole
number of nanoseconds, a fraction of something longer a whole number of seconds.
-/

namespace ProxyFilter.Duration

/-- Why a text is no duration; places are counted in octets. -/
inductive Fault
  | empty
  | numberExpected (place : Nat)
  | invalidCharacter (place : Nat)
  /-- There is no unit of this name after the number. -/
  | unknownUnit (name : String) (number : Nat)
  /-- A number is too large or too fine. -/
  | outOfRange
  deriving DecidableEq, Repr

/-- The message for a fault. -/
def Fault.message : Fault → String
  | empty => "value was empty"
  | numberExpected place => "expected number at " ++ toString place
  | invalidCharacter place => "invalid character at " ++ toString place
  | unknownUnit name number =>
    if name.isEmpty then
      "time unit needed, for example " ++ toString number ++ "sec or " ++ toString number ++ "ms"
    else
      "unknown time unit \"" ++ name ++ "\", supported units: ns, us/µs, ms, sec, min, hours, "
        ++ "days, weeks, months, years (and few variations)"
  | outOfRange =>
    "number is too large or cannot be represented without a lack of precision "
      ++ "(values below 1ns are not supported)"

/-! ## Units -/

/-- A unit of time. -/
inductive TimeUnit
  /-- A whole number of nanoseconds, less than a second. -/
  | nanos (each : Nat)
  /-- A whole number of seconds. -/
  | seconds (each : Nat)
  deriving DecidableEq, Repr

/-- The unit of a name. -/
def TimeUnit.ofName? (name : String) : Option TimeUnit :=
  if ["nanos", "nsec", "ns"].contains name then some (nanos 1)
  else if ["usec", "us", "µs"].contains name then some (nanos 1000)
  else if ["millis", "msec", "ms"].contains name then some (nanos 1000000)
  else if ["seconds", "second", "secs", "sec", "s"].contains name then some (seconds 1)
  else if ["minutes", "minute", "min", "mins", "m"].contains name then some (seconds 60)
  else if ["hours", "hour", "hr", "hrs", "h"].contains name then some (seconds 3600)
  else if ["days", "day", "d"].contains name then some (seconds 86400)
  else if ["weeks", "week", "wk", "wks", "w"].contains name then some (seconds 604800)
  else if ["months", "month", "M"].contains name then some (seconds 2630016)
  else if ["years", "year", "yr", "yrs", "y"].contains name then some (seconds 31557600)
  else none

/-- A letter of a unit's name. -/
def isUnitLetter (c : Char) : Bool := c.isAlpha || c == 'µ'

/-! ## Sums -/

/-- A number that sixty-four bits can hold. -/
def word64 (n : Nat) : Except Fault Nat := if n < UInt64.size then .ok n else .error .outOfRange

/-- A length of time and some more seconds and nanoseconds. -/
def addParts (d : Duration) (seconds nanos : Nat) : Except Fault Duration := do
  let nanos ← word64 (d.nanos + nanos)
  let seconds ← word64 (d.seconds + (← word64 (seconds + nanos / 1000000000)))
  return ⟨seconds, nanos % 1000000000⟩

/-- A length of time and a whole number of units more. -/
def addWhole (d : Duration) (unit : TimeUnit) (n : Nat) : Except Fault Duration := do
  match unit with
  | .nanos each => d.addParts 0 (← word64 (n * each))
  | .seconds each => d.addParts (← word64 (n * each)) 0

/-- A fraction of a unit. -/
structure Fraction where
  numerator : Nat
  denominator : Nat
  deriving DecidableEq, Repr

/-- So many parts of a whole that a fraction takes, which must come out even. -/
def Fraction.of (f : Fraction) (whole : Nat) : Except Fault Nat := do
  let n ← word64 (f.numerator * whole)
  if n % f.denominator = 0 then return n / f.denominator else throw .outOfRange

/-- A length of time and a fraction of a unit more. -/
def addFraction (d : Duration) (unit : TimeUnit) (f : Fraction) : Except Fault Duration := do
  match unit with
  | .nanos each =>
    if each = 1 then throw .outOfRange
    d.addParts 0 (← f.of each)
  | .seconds each =>
    if each ≤ 60 then d.addParts 0 (← f.of (each * 1000000000))
    else d.addParts (← f.of each) 0

/-! ## Reading -/

/-- Characters that are still to be read, and the place of the first of them. -/
structure Rest where
  place : Nat
  chars : List Char
  deriving DecidableEq, Repr

/-- The digit at the end of a number. -/
def pushDigit (n : Nat) (c : Char) : Except Fault Nat := word64 (n * 10 + (c.toNat - 48))

/-- Reads the digits of a number up to its point or unit, after those that make `n`. -/
def wholePart (n place : Nat) : List Char → Except Fault (Nat × Rest)
  | [] => .ok (n, ⟨place, []⟩)
  | c :: rest =>
    if c.isDigit then do wholePart (← pushDigit n c) (place + c.utf8Size) rest
    else if Text.isBlank c then wholePart n (place + c.utf8Size) rest
    else if isUnitLetter c || c = '.' then .ok (n, ⟨place, c :: rest⟩)
    else .error (.invalidCharacter place)

/-- Reads the digits after a point up to the unit, after those that make `f`. What is wrong with
the first character is told of the place of the point. -/
def fractionPart (f : Fraction) (told place : Nat) : List Char → Except Fault (Fraction × Rest)
  | [] => finish place []
  | c :: rest =>
    let next := place + c.utf8Size
    if c.isDigit then do
      let f : Fraction := ⟨← pushDigit f.numerator c, ← word64 (f.denominator * 10)⟩
      fractionPart f next next rest
    else if Text.isBlank c then fractionPart f next next rest
    else if isUnitLetter c then finish place (c :: rest)
    else .error (.invalidCharacter told)
where
  finish (place : Nat) (chars : List Char) : Except Fault (Fraction × Rest) :=
    if f.denominator = 1 then .error (.invalidCharacter told) else .ok (f, ⟨place, chars⟩)

/-- Reads the name of a unit and the blank after it, if there is one. -/
def unitName (place : Nat) : List Char → Except Fault (List Char × Rest)
  | [] => .ok ([], ⟨place, []⟩)
  | c :: rest =>
    if isUnitLetter c then do
      let (name, rest) ← unitName (place + c.utf8Size) rest
      return (c :: name, rest)
    else if c.isDigit then .ok ([], ⟨place, c :: rest⟩)
    else if Text.isBlank c then .ok ([], ⟨place + c.utf8Size, rest⟩)
    else .error (.invalidCharacter place)

/-- Reads an amount whose digits begin at `rest`, and adds it. -/
def addAmount (d : Duration) (rest : Rest) : Except Fault (Duration × Rest) := do
  let (n, rest) ← wholePart 0 rest.place rest.chars
  let (fraction, rest) ← match rest.chars with
    | '.' :: chars => do
      let (f, rest) ← fractionPart ⟨0, 1⟩ rest.place (rest.place + 1) chars
      pure (some f, rest)
    | _ => pure (none, rest)
  let (name, rest) ← unitName rest.place rest.chars
  match TimeUnit.ofName? (String.ofList name) with
  | none => throw (.unknownUnit (String.ofList name) n)
  | some unit =>
    let d ← d.addWhole unit n
    match fraction with
    | some f => return (← d.addFraction unit f, rest)
    | none => return (d, rest)

/-- The characters from the first digit on, if there are any but blanks. A character that is
neither is told of the place where the blanks begin. -/
def firstDigit? (rest : Rest) : Except Fault (Option Rest) :=
  let blanks := rest.chars.takeWhile Text.isBlank
  match rest.chars.dropWhile Text.isBlank with
  | [] => .ok none
  | c :: chars =>
    if c.isDigit then
      .ok (some ⟨blanks.foldl (fun place b => place + b.utf8Size) rest.place, c :: chars⟩)
    else .error (.numberExpected rest.place)

/-- Adds `fuel` amounts at most. -/
def addAmounts : Nat → Duration → Rest → Except Fault Duration
  | 0, d, _ => .ok d
  | fuel + 1, d, rest => do
    match ← firstDigit? rest with
    | none => return d
    | some rest =>
      let (d, rest) ← d.addAmount rest
      addAmounts fuel d rest

/-- Reads a duration. Zero alone needs no unit. -/
def parse (s : String) : Except Fault Duration :=
  if s = "0" then .ok zero
  else if s.toList.all Text.isBlank then .error .empty
  else addAmounts s.length zero ⟨0, s.toList⟩

end ProxyFilter.Duration
