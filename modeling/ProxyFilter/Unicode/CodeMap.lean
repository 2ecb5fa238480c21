import ProxyFilter.Unicode.CodeSet

/-!
# Maps on code points

A `CodeMap` gives texts for some numbers, and a `RunTable` a label for every number. Both are found
by halving the table. Tables in text list records of decimal numbers with commas between them.
-/

namespace ProxyFilter.Unicode

/-- The greatest place below `high` and not below `low` of which `p` holds, in at most `fuel`
halvings; `p` holds of places up to some point, `low` among them. -/
def lastPlace (p : Nat → Bool) : Nat → Nat → Nat → Nat
  | 0, low, _ => low
  | fuel + 1, low, high =>
    if low + 1 < high then
      let middle := (low + high) / 2
      if p middle then lastPlace p fuel middle high else lastPlace p fuel low middle
    else low

/-! ## Texts for numbers -/

/-- Texts for some numbers, in ascending order. -/
structure CodeMap where
  entries : Array (Nat × List Nat)
  deriving DecidableEq, Repr

namespace CodeMap

/-- The map with some entries, each for another number. -/
def ofEntries (entries : List (Nat × List Nat)) : CodeMap :=
  ⟨(entries.mergeSort fun x y => decide (x.1 ≤ y.1)).toArray⟩

/-- The text for a number. -/
def get? (m : CodeMap) (n : Nat) : Option (List Nat) :=
  let place := lastPlace (fun i => decide ((m.entries.getD i (0, [])).1 ≤ n)) m.entries.size 0
    m.entries.size
  match m.entries[place]? with
  | some (key, text) => if key = n then some text else none
  | none => none

/-- The records of a table. -/
def records (table : String) : List (List Nat) :=
  (table.toList.splitOn ',').map fun record => CodeSet.numbers (String.ofList record)

/-- The entries of records that each begin with the distance from the entry before, from `former`
on. -/
def gapEntries (former : Nat) : List (List Nat) → List (Nat × List Nat)
  | (gap :: text) :: rest => (former + gap, text) :: gapEntries (former + gap) rest
  | _ => []

/-- The entries of records that each stand for a run of numbers with texts of one character: the
distance from the run before, from `former` on, the size, the step, and the first text and its
step. -/
def runEntries (former : Nat) : List (List Nat) → List (Nat × List Nat)
  | [gap, size, step, text, textStep] :: rest =>
    (List.range size).map (fun i => (former + gap + i * step, [text + i * textStep]))
      ++ runEntries (former + gap) rest
  | _ => []

end CodeMap

/-! ## Labels of numbers -/

/-- Labels of all numbers, as runs in ascending order that begin with 0. -/
structure RunTable where
  runs : Array (String × Nat × Nat)
  deriving DecidableEq, Repr

namespace RunTable

/-- The table that a text lists. -/
def ofText (table : String) : RunTable := ⟨(CodeSet.runs table).toArray⟩

/-- The label of a number. -/
def label (t : RunTable) (n : Nat) : String :=
  (t.runs.getD
    (lastPlace (fun i => decide ((t.runs.getD i ("", 0, 0)).2.1 ≤ n)) t.runs.size 0 t.runs.size)
    ("", 0, 0)).1

end RunTable

end ProxyFilter.Unicode
