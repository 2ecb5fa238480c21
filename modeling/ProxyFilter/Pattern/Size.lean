import Std.Data.HashMap
import ProxyFilter.Pattern.Shape

/-!
# Sizes of automata

A pattern is refused where an automaton for it would be too large: the one that reads a text
forwards, or the one that reads it backwards from the end of a match (`Shape.fits`). The size is
counted in octets. A state takes `stateSize`; beyond that, a state that tells several octets apart
takes `rangeSize` for each range of octets, and a state that goes on in several ways `branchSize`
for each of them.
-/

namespace ProxyFilter.Pattern

open Unicode (CodeSet)

/-- The size of a state. -/
def stateSize : Nat := 32

/-- What a range of octets adds to a state with several. -/
def rangeSize : Nat := 8

/-- What a way to go on adds to a state with several. -/
def branchSize : Nat := 4

/-- The greatest size of an automaton. -/
def maxSize : Nat := 10485760

/-! ## Characters as octets -/

/-- The greatest character below `last`, and not below `first`, behind which the octets of
characters begin another way: they are more, or differ before their last ones. -/
def cut? (first last : Nat) : Option Nat :=
  let longer := [0x7F, 0x7FF, 0xFFFF].find? fun n => first ≤ n && n < last
  let blocks := [64, 64 * 64, 64 * 64 * 64].findSome? fun size =>
    if first / size = last / size then none
    else if first % size ≠ 0 then some (first / size * size + (size - 1))
    else if last % size ≠ size - 1 then some (last / size * size - 1)
    else none
  longer.or (if last < 128 then none else blocks)

/-- The ranges of octets, one for each octet, that together are the characters of a range; the range
is cut `fuel` times in a row at most. -/
def octetRanges (first last : Nat) : Nat → List (List (Nat × Nat))
  | 0 => []
  | fuel + 1 =>
    if last < first then []
    else if first < 0xE000 ∧ 0xD7FF < last then
      octetRanges first 0xD7FF fuel ++ octetRanges 0xE000 last fuel
    else
      match cut? first last with
      | some n => octetRanges first n fuel ++ octetRanges (n + 1) last fuel
      | none =>
        let octets (n : Nat) := (String.utf8EncodeChar (Char.ofNat n)).map UInt8.toNat
        [(octets first).zip (octets last)]

/-- Characters by their octets: ranges of octets, the last one first, and what may follow each. -/
inductive OctetTree
  | node (edges : List ((Nat × Nat) × OctetTree))

namespace OctetTree

/-- Adds a sequence of ranges that comes after those in the tree. -/
def add : List (Nat × Nat) → OctetTree → OctetTree
  | [], t => t
  | r :: rest, node [] => node [(r, add rest (node []))]
  | r :: rest, node ((last, below) :: edges) =>
    if last = r then node ((last, add rest below) :: edges)
    else node ((r, add rest (node [])) :: (last, below) :: edges)

mutual

/-- The number of ranges in a tree. -/
def edgeCount : OctetTree → Nat
  | node edges => edgeCounts edges

/-- The number of ranges, with those below them. -/
def edgeCounts : List ((Nat × Nat) × OctetTree) → Nat
  | [] => 0
  | (_, below) :: rest => edgeCount below + edgeCounts rest + 1

end

/-- The states of an automaton: for each, its ranges with the numbers of the states behind them. -/
structure States where
  numbers : Std.HashMap (List ((Nat × Nat) × Nat)) Nat
  size : Nat

/-- The number of a state. A state like one that is there already is the same. -/
def number (edges : List ((Nat × Nat) × Nat)) : StateM States Nat := do
  let states ← get
  match states.numbers[edges]? with
  | some n => return n
  | none =>
    let n := states.numbers.size + 1
    let size := states.size + stateSize + rangeSize * edges.length
    set (⟨states.numbers.insert edges n, size⟩ : States)
    return n

mutual

/-- The number of the state for a tree; 0 stands for the end. -/
def toState : OctetTree → StateM States Nat
  | node [] => return 0
  | node (e :: edges) => do number (← toStates (e :: edges))

/-- The ranges of a state. -/
def toStates : List ((Nat × Nat) × OctetTree) → StateM States (List ((Nat × Nat) × Nat))
  | [] => return []
  | (r, below) :: rest => do
    let n ← toState below
    return (r, n) :: (← toStates rest)

end

end OctetTree

/-- The size for a set of octets or of ASCII characters. -/
def rangesSize (s : CodeSet) : Nat := 2 * stateSize + rangeSize * s.ranges.size

/-- The size for a set of characters. Backwards each sequence of octets has states of its own, but
for those that it begins with like another. -/
def charsSize (backwards : Bool) (s : CodeSet) : Nat :=
  if Shape.isAscii s then rangesSize s
  else
    let sequences := s.ranges.toList.flatMap fun r => octetRanges r.1 r.2 64
    let tree := sequences.foldl (fun t ranges => OctetTree.add ranges t) (OctetTree.node [])
    if backwards then
      2 * stateSize + branchSize * sequences.length + stateSize * tree.edgeCount
    else (tree.toState.run ⟨∅, stateSize⟩).2.size

/-! ## Literals side by side -/

/-- Literals by their octets: what may follow, with the number of literals that end here before it
was added. -/
inductive LiteralTree
  | node (ended : Nat) (edges : List (Nat × UInt8 × LiteralTree))

namespace LiteralTree

/-- No literals. -/
def none : LiteralTree := node 0 []

/-- Adds a literal. What ends here is preferred to what goes on with octets that are added later. -/
def add : Bytes → LiteralTree → LiteralTree
  | [], node ended edges =>
    if 0 < ended ∧ ! (edges.any fun e => e.1 = ended) then node ended edges
    else node (ended + 1) edges
  | b :: rest, node ended edges =>
    if edges.any fun e => e.1 = ended && e.2.1 = b then
      node ended (edges.map fun (n, c, below) =>
        if n = ended ∧ c = b then (n, c, add rest below) else (n, c, below))
    else node ended ((ended, b, add rest none) :: edges)

/-- The size of the state for octets of one number. -/
def groupSize (count : Nat) : Nat :=
  if count ≤ 1 then stateSize * count else stateSize + rangeSize * count

/-- The size of the states for some edges, and of the state that goes on to each of them. -/
def ownSize (ended : Nat) (numbers : List Nat) : Nat :=
  let groups := (List.range (ended + 1)).map fun n => numbers.count n
  let start := stateSize + branchSize * (ended + groups.countP (0 < ·))
  groups.foldl (fun size count => size + groupSize count) start

mutual

/-- The size of the states for a tree. -/
def size : LiteralTree → Nat
  | node _ [] => 0
  | node ended (e :: edges) =>
    ownSize ended ((e :: edges).map (·.1)) + sizes (e :: edges)

/-- The size of the states behind edges. -/
def sizes : List (Nat × UInt8 × LiteralTree) → Nat
  | [] => 0
  | (_, _, below) :: rest => size below + sizes rest

end

end LiteralTree

/-- The octets of shapes that are all literals. -/
def literals? (branches : List Shape) : Option (List Bytes) :=
  branches.mapM fun
    | .literal b => some b
    | _ => none

/-- The size for a choice of literals. -/
def literalsSize (backwards : Bool) (literals : List Bytes) : Nat :=
  let tree := literals.foldl
    (fun t b => LiteralTree.add (if backwards then b.reverse else b) t) LiteralTree.none
  stateSize + tree.size

/-! ## Patterns -/

/-- The size for a repetition of what has a size itself. -/
def repetitionSize (min : Nat) (max : Option Nat) (consumes : Bool) (size : Nat) : Nat :=
  let twoWays := stateSize + 2 * branchSize
  match min, max with
  | 0, none => if consumes then size + twoWays else size + 2 * twoWays + stateSize
  | n, none => n * size + twoWays
  | 0, some 1 => size + twoWays + stateSize
  | n, some m =>
    let first := if n = 0 then stateSize else n * size
    if n = m then first else first + stateSize + (m - n) * (size + twoWays)

namespace Shape

mutual

/-- The size of the states for a shape. Groups are only noted forwards. -/
def size (backwards : Bool) : Shape → Nat
  | empty | look _ => stateSize
  | literal b => stateSize * b.length
  | chars s => charsSize backwards s
  | octets s => rangesSize s
  | repetition min max _ consumes sub => repetitionSize min max consumes (size backwards sub)
  | capture _ sub => size backwards sub + if backwards then 0 else 2 * stateSize
  | concat parts => sizes backwards parts
  | alternation branches =>
    match literals? branches with
    | some literals => literalsSize backwards literals
    | none => 2 * stateSize + branchSize * branches.length + sizes backwards branches

/-- The size of the states for some shapes. -/
def sizes (backwards : Bool) : List Shape → Nat
  | [] => 0
  | s :: rest => size backwards s + sizes backwards rest

end

/-- The size of an automaton, with the states that look for the beginning of a match and the one
that ends it. -/
def totalSize (backwards : Bool) (s : Shape) : Nat :=
  let search := repetitionSize 0 none true (rangesSize (CodeSet.range 0 255)) + stateSize
  search + size backwards (capture 0 s)

/-- No automaton for a shape is too large. -/
def fits (s : Shape) : Bool := [false, true].all fun backwards => totalSize backwards s ≤ maxSize

end Shape

end ProxyFilter.Pattern
