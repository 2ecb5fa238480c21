import Std.Data.HashSet
import ProxyFilter.Pattern.Expr
import ProxyFilter.Text.Utf8

/-!
# Matching programs

A pattern is compiled to a list of instructions (`Program`), in which a choice names its preferred
continuation first. `Program.find?` looks for the leftmost match and, of those that begin there,
for the one that the choices prefer. It tries instructions and places depth first and never a pair
twice, so its work is bounded by the product of the two sizes.
-/

namespace ProxyFilter.Pattern

open Unicode (CodeSet)

/-- An instruction; the numbers are those of the instructions to go on with. -/
inductive Instruction
  /-- One character of a set. -/
  | char (s : CodeSet) (next : Nat)
  /-- One octet of a set. -/
  | octet (s : CodeSet) (next : Nat)
  /-- A test of the place. -/
  | look (l : Look) (next : Nat)
  /-- A choice, the preferred one first. -/
  | split (first second : Nat)
  /-- The place is noted. -/
  | mark (slot : Nat) (next : Nat)
  /-- A match is found. -/
  | accept

/-- The instructions compiled so far. -/
abbrev Compile := StateM (Array Instruction)

namespace Compile

/-- Adds an instruction and gives its number. -/
def emit (i : Instruction) : Compile Nat := modifyGet fun code => (code.size, code.push i)

/-- Replaces an instruction. -/
def patch (number : Nat) (i : Instruction) : Compile Unit :=
  modify fun code => code.setIfInBounds number i

/-- A choice between one more match and going on. -/
def choose (greedy : Bool) (more next : Nat) : Instruction :=
  if greedy then .split more next else .split next more

/-- `f` in front of `next`, so many times. -/
def times (f : Nat → Compile Nat) : Nat → Nat → Compile Nat
  | 0, next => pure next
  | n + 1, next => do times f n (← f next)

/-- `f` in front of `next`, up to so many times. -/
def upTo (greedy : Bool) (f : Nat → Compile Nat) (last : Nat) : Nat → Nat → Compile Nat
  | 0, next => pure next
  | n + 1, next => do
    let more ← f next
    upTo greedy f last n (← emit (choose greedy more last))

/-- `f` once and then any number of times, in front of `next`. -/
def onceOrMore (greedy : Bool) (f : Nat → Compile Nat) (next : Nat) : Compile Nat := do
  let loop ← emit .accept
  let start ← f loop
  patch loop (choose greedy start next)
  return start

/-- `f` any number of times in front of `next`. Where `f` may match nothing, the first time is set
apart, which keeps the order of preference. -/
def anyNumber (greedy consumes : Bool) (f : Nat → Compile Nat) (next : Nat) : Compile Nat := do
  if consumes then
    let loop ← emit .accept
    let start ← f loop
    patch loop (choose greedy start next)
    return loop
  else emit (choose greedy (← onceOrMore greedy f next) next)

/-- A repetition in front of `next`. -/
def repetition (min : Nat) (max : Option Nat) (greedy consumes : Bool) (f : Nat → Compile Nat)
    (next : Nat) : Compile Nat :=
  match max with
  | some max => do times f min (← upTo greedy f next (max - min) next)
  | none =>
    match min with
    | 0 => anyNumber greedy consumes f next
    | min + 1 => do times f min (← onceOrMore greedy f next)

/-- The bounds of a repetition; one more empty match changes nothing. -/
def trimmed (emptyOnly : Bool) (min : Nat) (max : Option Nat) : Nat × Option Nat :=
  if emptyOnly then (Nat.min min 1, some ((max.map (Nat.min · 1)).getD 1)) else (min, max)

mutual

/-- A pattern in front of `next`. -/
def expr : Expr → Nat → Compile Nat
  | .empty, next => pure next
  | .char s, next => emit (.char s next)
  | .octet s, next => emit (.octet s next)
  | .look l, next => emit (.look l next)
  | .repetition min max greedy sub, next =>
    let (min, max) := trimmed sub.isEmptyOnly min max
    repetition min max greedy sub.consumes (expr sub) next
  | .capture index sub, next => do
    let close ← emit (.mark (2 * index + 1) next)
    let start ← expr sub close
    emit (.mark (2 * index) start)
  | .concat parts, next => sequence parts next
  | .alternation branches, next => choice branches next

/-- Patterns one after another in front of `next`. -/
def sequence : List Expr → Nat → Compile Nat
  | [], next => pure next
  | e :: rest, next => do
    let after ← sequence rest next
    expr e after

/-- Branches, the preferred one first, in front of `next`. -/
def choice : List Expr → Nat → Compile Nat
  | [], next => pure next
  | [e], next => expr e next
  | e :: rest, next => do
    let first ← expr e next
    let second ← choice rest next
    emit (.split first second)

end

end Compile

/-! ## Running -/

/-- A compiled pattern. -/
structure Program where
  code : Array Instruction
  start : Nat
  /-- An empty match stands between characters, never inside one. -/
  utf8 : Bool

/-- Compiles a pattern. -/
def Program.ofExpr (utf8 : Bool) (e : Expr) : Program :=
  let (start, code) := (do
    let accept ← Compile.emit .accept
    let close ← Compile.emit (.mark 1 accept)
    let body ← Compile.expr e close
    Compile.emit (.mark 0 body)).run #[]
  ⟨code, start, utf8⟩

/-- The octets that a program runs on. -/
abbrev Haystack := Array UInt8

namespace Haystack

/-- The octet at a place. -/
def octet? (h : Haystack) (i : Nat) : Option UInt8 := h[i]?

/-- The character that begins at a place, and how many octets it takes. -/
def charAt? (h : Haystack) (i : Nat) : Option (Char × Nat) :=
  match h.octet? i with
  | none => none
  | some b =>
    if b < 0x80 then some (Char.ofNat b.toNat, 1)
    else Utf8.first? ((h.extract i (i + 4)).toList)

/-- The character that ends at a place. -/
def charBefore? (h : Haystack) (i : Nat) : Option Char :=
  [1, 2, 3, 4].findSome? fun n =>
    if n ≤ i then
      match h.charAt? (i - n) with
      | some (c, size) => if size = n then some c else none
      | none => none
    else none

/-- The place is not inside a character. -/
def isBoundary (h : Haystack) (i : Nat) : Bool :=
  match h.octet? i with
  | some b => ! Utf8.isTail b
  | none => true

end Haystack

/-- What stands on one side of a place. -/
inductive Side
  /-- Nothing, or a character that is not of a word. -/
  | outside
  /-- A character of a word. -/
  | word
  /-- Octets that are no character. -/
  | broken
  deriving DecidableEq

/-- The side of a character. -/
def Side.ofChar (unicode : Bool) (c : Char) : Side :=
  let inWord := if unicode && 128 ≤ c.toNat then Unicode.wordCharacter.contains c.toNat
    else c.isAlphanum || c == '_'
  if inWord then .word else .outside

/-- What stands before a place. Words of ASCII are seen octet by octet. -/
def sideBefore (unicode : Bool) (h : Haystack) (i : Nat) : Side :=
  if i = 0 then .outside
  else if unicode then
    match h.charBefore? i with
    | some c => Side.ofChar true c
    | none => .broken
  else
    match h.octet? (i - 1) with
    | some b => if b < 128 then Side.ofChar false (Char.ofNat b.toNat) else .outside
    | none => .outside

/-- What stands after a place. -/
def sideAfter (unicode : Bool) (h : Haystack) (i : Nat) : Side :=
  match h.octet? i with
  | none => .outside
  | some b =>
    if unicode then
      match h.charAt? i with
      | some (c, _) => Side.ofChar true c
      | none => .broken
    else if b < 128 then Side.ofChar false (Char.ofNat b.toNat)
    else .outside

/-- The test holds at a place. The absence of an edge or a half of one is not told where octets are
no character. -/
def Look.holds (h : Haystack) (i : Nat) : Look → Bool
  | .textStart => i == 0
  | .textEnd => i == h.size
  | .lineStart => i == 0 || h.octet? (i - 1) == some 10
  | .lineEnd => i == h.size || h.octet? i == some 10
  | .crlfStart =>
    i == 0 || h.octet? (i - 1) == some 10
      || (h.octet? (i - 1) == some 13 && h.octet? i != some 10)
  | .crlfEnd =>
    i == h.size || h.octet? i == some 13
      || (h.octet? i == some 10 && (i == 0 || h.octet? (i - 1) != some 13))
  | .wordEdge u => (sideBefore u h i == .word) != (sideAfter u h i == .word)
  | .noWordEdge u =>
    let before := sideBefore u h i
    let after := sideAfter u h i
    before != .broken && after != .broken && (before == .word) == (after == .word)
  | .wordStart u => sideBefore u h i != .word && sideAfter u h i == .word
  | .wordEnd u => sideBefore u h i == .word && sideAfter u h i != .word
  | .wordStartHalf u => sideBefore u h i == .outside
  | .wordEndHalf u => sideAfter u h i == .outside

/-- The places noted so far, the latest first. -/
abbrev Marks := List (Nat × Nat)

/-- An instruction to try at a place. -/
structure Job where
  pc : Nat
  place : Nat
  marks : Marks

/-- The pairs of an instruction and a place that have been tried, as one number each. -/
abbrev Tried := Std.HashSet Nat

/-- What trying jobs comes to. -/
inductive Outcome
  | found (marks : Marks)
  | exhausted (tried : Tried)

/-- Tries jobs, the first one first. -/
def Program.runJobs (p : Program) (h : Haystack) : Nat → Tried → List Job → Outcome
  | 0, tried, _ => .exhausted tried
  | _, tried, [] => .exhausted tried
  | fuel + 1, tried, job :: jobs =>
    let key := job.place * p.code.size + job.pc
    if tried.contains key then p.runJobs h fuel tried jobs
    else
      let tried := tried.insert key
      match p.code.getD job.pc .accept with
      | .accept => .found job.marks
      | .char s next =>
        match h.charAt? job.place with
        | some (c, size) =>
          if s.contains c.toNat then
            p.runJobs h fuel tried (⟨next, job.place + size, job.marks⟩ :: jobs)
          else p.runJobs h fuel tried jobs
        | none => p.runJobs h fuel tried jobs
      | .octet s next =>
        match h.octet? job.place with
        | some b =>
          if s.contains b.toNat then
            p.runJobs h fuel tried (⟨next, job.place + 1, job.marks⟩ :: jobs)
          else p.runJobs h fuel tried jobs
        | none => p.runJobs h fuel tried jobs
      | .look l next =>
        if l.holds h job.place then
          p.runJobs h fuel tried (⟨next, job.place, job.marks⟩ :: jobs)
        else p.runJobs h fuel tried jobs
      | .split first second =>
        p.runJobs h fuel tried
          (⟨first, job.place, job.marks⟩ :: ⟨second, job.place, job.marks⟩ :: jobs)
      | .mark slot next =>
        p.runJobs h fuel tried
          (⟨next, job.place, (slot, job.place) :: job.marks⟩ :: jobs)

/-- A match: where it begins and ends, and the places noted on the way. -/
structure Match where
  first : Nat
  last : Nat
  marks : Marks

/-- The match that marks describe. -/
def Match.ofMarks (marks : Marks) : Match :=
  ⟨(marks.lookup 0).getD 0, (marks.lookup 1).getD 0, marks⟩

/-- The octets of a group, if the group took part in the match. -/
def Match.group? (m : Match) (h : Haystack) (index : Nat) : Option Bytes := do
  let first ← m.marks.lookup (2 * index)
  let last ← m.marks.lookup (2 * index + 1)
  return (h.extract first last).toList

/-- Looks for a match that begins at the place `i` or after it, at `left` places at most. -/
def Program.findFrom (p : Program) (h : Haystack) (i : Nat) : Nat → Tried → Option Match
  | 0, _ => none
  | left + 1, tried =>
    match p.runJobs h (4 * (h.size + 1) * p.code.size + 4) tried [⟨p.start, i, []⟩] with
    | .found marks =>
      let m := Match.ofMarks marks
      if p.utf8 && m.first == m.last && ! h.isBoundary m.first then
        p.findFrom h (i + 1) left ∅
      else some m
    | .exhausted tried => p.findFrom h (i + 1) left tried

/-- The first match that begins at the place `i` or after it. -/
def Program.find? (p : Program) (h : Haystack) (i : Nat) : Option Match :=
  p.findFrom h i (h.size + 1 - i) ∅

end ProxyFilter.Pattern
