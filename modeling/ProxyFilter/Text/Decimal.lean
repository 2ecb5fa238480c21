/-!
# Decimal integers in text

Readers for the integers that headers and tokens carry. Each takes an optional plus sign, at least
one ASCII digit and nothing else; a number outside the stated range is not read at all.
-/

namespace ProxyFilter.Text

/-- The number that a run of ASCII digits stands for. -/
def natOfDigits (cs : List Char) : Nat := cs.foldl (fun n c => 10 * n + (c.toNat - 48)) 0

/-- The number written by one or more ASCII digits. -/
def natOfChars? (cs : List Char) : Option Nat :=
  if cs.isEmpty || cs.any (! ·.isDigit) then none else some (natOfDigits cs)

/-- A natural number below `bound`, with an optional plus sign. -/
def natBelow? (bound : Nat) (s : String) : Option Nat :=
  let digits := match s.toList with
    | '+' :: cs => cs
    | cs => cs
  (natOfChars? digits).filter (· < bound)

/-- The least number that sixty-four bits with a sign can hold. -/
def int64Min : Int := -9223372036854775808

/-- The greatest number that sixty-four bits with a sign can hold. -/
def int64Max : Int := 9223372036854775807

/-- The nearest number that sixty-four bits with a sign can hold. -/
def saturate64 (n : Int) : Int := max int64Min (min n int64Max)

/-- An integer that sixty-four bits with a sign can hold, with an optional sign. -/
def int64? (s : String) : Option Int :=
  let value : Option Int := match s.toList with
    | '-' :: cs => (natOfChars? cs).map fun n => -(n : Int)
    | '+' :: cs => (natOfChars? cs).map fun n => (n : Int)
    | cs => (natOfChars? cs).map fun n => (n : Int)
  value.filter fun n => decide (int64Min ≤ n) && decide (n ≤ int64Max)

end ProxyFilter.Text
