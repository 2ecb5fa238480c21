/-!
# Sets of code points

A `CodeSet` is a set of numbers (code points, or octets) as ranges in ascending order that neither
overlap nor touch. `CodeSet.ofRanges` puts any ranges into that form, and the operations of sets
are defined on it. Tables write a set in `CodeSet.ofGaps`: for each range how far it lies behind
the one before, and its size.
-/

namespace ProxyFilter.Unicode

/-- A set of numbers, as ranges with both ends included. -/
structure CodeSet where
  ranges : Array (Nat × Nat)
  deriving DecidableEq, Repr

namespace CodeSet

/-- The set without members. -/
def empty : CodeSet := ⟨#[]⟩

/-- The set with one member. -/
def single (n : Nat) : CodeSet := ⟨#[(n, n)]⟩

/-- Joins ranges that come in the order of their first ends, where they overlap or touch; `(a, b)`
is the range before them. -/
def joinFrom (a b : Nat) : List (Nat × Nat) → List (Nat × Nat)
  | [] => [(a, b)]
  | (c, d) :: rest => if c ≤ b + 1 then joinFrom a (max b d) rest else (a, b) :: joinFrom c d rest

/-- Joins ranges that come in the order of their first ends, where they overlap or touch. -/
def join : List (Nat × Nat) → List (Nat × Nat)
  | [] => []
  | (a, b) :: rest => joinFrom a b rest

/-- The set of all members of some ranges. -/
def ofRanges (ranges : List (Nat × Nat)) : CodeSet :=
  ⟨(join (ranges.mergeSort fun x y => decide (x.1 ≤ y.1))).toArray⟩

/-- The set with one range, both ends included. -/
def range (a b : Nat) : CodeSet := ofRanges [(a, b)]

/-- Looks for `n` among the ranges from the place `low` up to the place before `high`, in `fuel`
halvings at most. -/
def searchBetween (ranges : Array (Nat × Nat)) (n : Nat) : Nat → Nat → Nat → Bool
  | 0, _, _ => false
  | fuel + 1, low, high =>
    if low < high then
      let middle := (low + high) / 2
      let (a, b) := ranges.getD middle (0, 0)
      if n < a then searchBetween ranges n fuel low middle
      else if b < n then searchBetween ranges n fuel (middle + 1) high
      else true
    else false

/-- The number is a member. -/
def contains (s : CodeSet) (n : Nat) : Bool :=
  searchBetween s.ranges n (s.ranges.size + 1) 0 s.ranges.size

/-- There are no members. -/
def isEmpty (s : CodeSet) : Bool := s.ranges.isEmpty

/-- The members of either set. -/
def union (s t : CodeSet) : CodeSet := ofRanges (s.ranges.toList ++ t.ranges.toList)

/-- The members of some sets. -/
def unions (sets : List CodeSet) : CodeSet := ofRanges (sets.flatMap fun s => s.ranges.toList)

/-- The numbers from `next` up to `top` that are in none of the ranges, which are ascending. -/
def complement (top next : Nat) : List (Nat × Nat) → List (Nat × Nat)
  | [] => if next ≤ top then [(next, top)] else []
  | (a, b) :: rest =>
    if next < a then (next, a - 1) :: complement top (b + 1) rest
    else complement top (max next (b + 1)) rest

/-- The numbers up to `top` that are not members. -/
def negateBelow (top : Nat) (s : CodeSet) : CodeSet :=
  ⟨(complement top 0 s.ranges.toList).toArray⟩

/-- The members of both sets, of which none is above `0x10FFFF`. -/
def inter (s t : CodeSet) : CodeSet :=
  (union (s.negateBelow 0x10FFFF) (t.negateBelow 0x10FFFF)).negateBelow 0x10FFFF

/-- The members of the first set that are not in the second. -/
def difference (s t : CodeSet) : CodeSet := inter s (t.negateBelow 0x10FFFF)

/-- The members of exactly one of two sets. -/
def symmetricDifference (s t : CodeSet) : CodeSet := (union s t).difference (inter s t)

/-- All code points of characters: surrogates are not among them. -/
def characters : CodeSet := ⟨#[(0, 0xD7FF), (0xE000, 0x10FFFF)]⟩

/-- The characters that are not members. -/
def negate (s : CodeSet) : CodeSet := inter characters (s.negateBelow 0x10FFFF)

/-- The number of members. -/
def size (s : CodeSet) : Nat := s.ranges.foldl (fun n r => n + (r.2 + 1 - r.1)) 0

/-! ## Tables -/

/-- The numbers that a text lists, with spaces and line ends between them. -/
def numbers (table : String) : List Nat :=
  ((table.toList.splitOnP Char.isWhitespace).filter (! ·.isEmpty)).map fun digits =>
    digits.foldl (fun n c => 10 * n + (c.toNat - 48)) 0

/-- The ranges of a table that begins at the number `next`. -/
def rangesOfGaps (next : Nat) : List Nat → List (Nat × Nat)
  | gap :: size :: rest =>
    (next + gap, next + gap + size - 1) :: rangesOfGaps (next + gap + size) rest
  | _ => []

/-- The set that a table lists, range by range: the numbers left out before it, and its size. -/
def ofGaps (table : String) : CodeSet := ⟨(rangesOfGaps 0 (numbers table)).toArray⟩

/-- The labelled runs that a text lists, from the number `next` on: letters that name a label, and
digits that tell for how many numbers it holds. -/
def runsFrom (next : Nat) (label : List Char) (size : Nat) : List Char → List (String × Nat × Nat)
  | [] => [(String.ofList label.reverse, next, next + size - 1)]
  | c :: rest =>
    if c.isDigit then runsFrom next label (10 * size + (c.toNat - 48)) rest
    else if size = 0 then runsFrom next (c :: label) 0 rest
    else (String.ofList label.reverse, next, next + size - 1)
      :: runsFrom (next + size) [c] 0 rest

/-- The labelled runs that a table lists. Spaces and line ends in it have no meaning. -/
def runs (table : String) : List (String × Nat × Nat) :=
  runsFrom 0 [] 0 (table.toList.filter (! ·.isWhitespace))

/-- The numbers that carry one of some labels. -/
def ofLabels (table : List (String × Nat × Nat)) (labels : List String) : CodeSet :=
  ofRanges ((table.filter fun run => labels.contains run.1).map (·.2))

end CodeSet

end ProxyFilter.Unicode
