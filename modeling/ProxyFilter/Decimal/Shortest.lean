/-!
# Shortest decimals

`shortest` gives, for a positive binary fraction, the decimal with the fewest digits that lies
among the reals which round to that fraction, and of those the nearest one. All arithmetic is
exact. `ofFloat?` takes a finite nonzero double apart into such a fraction.
-/

namespace ProxyFilter.Decimal

/-- A positive binary fraction `mantissa · 2 ^ exponent`, as one of those that a format holds. -/
structure Binary where
  mantissa : Nat
  exponent : Int
  /-- The next smaller fraction of the format is only half as far away as the next greater one. -/
  lowerIsNearer : Bool

/-- A decimal `digits · 10 ^ exponent`. -/
structure Scaled where
  digits : Nat
  exponent : Int
  deriving DecidableEq, Repr

/-- `x · base ^ e` as a numerator and a denominator. -/
def scaled (base x : Nat) (e : Int) : Nat × Nat :=
  if 0 ≤ e then (x * base.pow e.toNat, 1) else (x, base.pow (-e).toNat)

/-- The decimal exponent of a positive fraction: the greatest `e` with `10 ^ e ≤ num / den`,
found upwards from `e` in at most `fuel` steps. -/
def exponentUp (num den : Nat) : Nat → Int → Int
  | 0, e => e
  | fuel + 1, e =>
    let (a, b) := scaled 10 1 (e + 1)
    if a * den ≤ num * b then exponentUp num den fuel (e + 1) else e

/-- A fraction lies between two others, the ends included where `closed`. -/
def between (closed : Bool) (low high x : Nat × Nat) : Bool :=
  let above := if closed then low.1 * x.2 ≤ x.1 * low.2 else low.1 * x.2 < x.1 * low.2
  let below := if closed then x.1 * high.2 ≤ high.1 * x.2 else x.1 * high.2 < high.1 * x.2
  above && below

/-- The decimals with the last digit at `10 ^ k` on either side of a fraction that lie in the
interval, the nearer one first. -/
def neighbour? (closed : Bool) (low high v : Nat × Nat) (k : Int) : Option Scaled :=
  let (a, b) := scaled 10 1 k
  let floor := v.1 * b / (v.2 * a)
  let point (n : Nat) : Nat × Nat := (n * a, b)
  let floorFits := 0 < floor && between closed low high (point floor)
  let nextFits := between closed low high (point (floor + 1))
  let nextNearer := 2 * (v.1 * b - floor * (v.2 * a)) > v.2 * a
  if floorFits && nextFits then some ⟨if nextNearer then floor + 1 else floor, k⟩
  else if floorFits then some ⟨floor, k⟩
  else if nextFits then some ⟨floor + 1, k⟩
  else none

/-- The first grid with a decimal in the interval, going to finer grids from `10 ^ k`. -/
def firstGrid (closed : Bool) (low high v : Nat × Nat) : Nat → Int → Scaled
  | 0, k => ⟨0, k⟩
  | fuel + 1, k =>
    match neighbour? closed low high v k with
    | some d => d
    | none => firstGrid closed low high v fuel (k - 1)

/-- Without the zeros at the end of the digits. -/
def trimZeros : Nat → Scaled → Scaled
  | 0, d => d
  | fuel + 1, d =>
    if d.digits ≠ 0 ∧ d.digits % 10 = 0 then trimZeros fuel ⟨d.digits / 10, d.exponent + 1⟩ else d

/-- The shortest decimal that rounds to a binary fraction. -/
def shortest (x : Binary) : Scaled :=
  let v := scaled 2 (4 * x.mantissa) (x.exponent - 2)
  let low := scaled 2 (4 * x.mantissa - if x.lowerIsNearer then 1 else 2) (x.exponent - 2)
  let high := scaled 2 (4 * x.mantissa + 2) (x.exponent - 2)
  let e := exponentUp v.1 v.2 640 (-330)
  trimZeros 20 (firstGrid (x.mantissa % 2 = 0) low high v 20 e)

/-- The magnitude of a finite nonzero double. -/
def ofFloat? (x : Float) : Option Binary :=
  let bits : Nat := x.toBits.toNat % 1 <<< 63
  let e : Nat := bits / 1 <<< 52
  let f : Nat := bits % 1 <<< 52
  if e = 2047 ∨ bits = 0 then none
  else if e = 0 then some ⟨f, -1074, false⟩
  else some ⟨f + 1 <<< 52, (e : Int) - 1075, decide (f = 0 ∧ 1 < e)⟩

end ProxyFilter.Decimal
