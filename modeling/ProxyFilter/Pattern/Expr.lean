import ProxyFilter.Pattern.NamedSet
import ProxyFilter.Pattern.Reader
import ProxyFilter.Unicode.Folding

/-!
# Meaning of patterns

An `Expr` is a pattern with its flags applied: sets of characters or octets, assertions, and the
ways to combine them. `Tree.toExpr?` applies the flags. It fails where a class or property does not
exist, and, for patterns on text, where a part could match octets that are not UTF-8.
-/

namespace ProxyFilter.Pattern

open Unicode (CodeSet)

/-- What an assertion asks of the octets around a place. -/
inductive Look
  /-- Nothing comes before. -/
  | textStart
  /-- Nothing comes after. -/
  | textEnd
  /-- Nothing or a line feed comes before. -/
  | lineStart
  /-- Nothing or a line feed comes after. -/
  | lineEnd
  /-- A line that may end in a return and a line feed begins. -/
  | crlfStart
  /-- A line that may end in a return and a line feed ends. -/
  | crlfEnd
  /-- A word begins or ends; `unicode` tells which words. -/
  | wordEdge (unicode : Bool)
  /-- No word begins or ends. -/
  | noWordEdge (unicode : Bool)
  /-- A word begins. -/
  | wordStart (unicode : Bool)
  /-- A word ends. -/
  | wordEnd (unicode : Bool)
  /-- No word comes before. -/
  | wordStartHalf (unicode : Bool)
  /-- No word comes after. -/
  | wordEndHalf (unicode : Bool)
  deriving DecidableEq, Repr

/-- A pattern whose flags have been applied. -/
inductive Expr
  | empty
  /-- One character of a set. -/
  | char (s : CodeSet)
  /-- One octet of a set. -/
  | octet (s : CodeSet)
  | look (l : Look)
  | repetition (min : Nat) (max : Option Nat) (greedy : Bool) (sub : Expr)
  | capture (index : Nat) (sub : Expr)
  | concat (parts : List Expr)
  | alternation (branches : List Expr)

/-- The flags in force. -/
structure Flags where
  ignoreCase : Bool
  multiLine : Bool
  dotAll : Bool
  swapGreed : Bool
  unicode : Bool
  crlf : Bool

namespace Flags

/-- The flags at the start of a pattern. -/
def initial : Flags := ⟨false, false, false, false, true, false⟩

/-- One flag switched. -/
def switch (f : Flags) : Flag × Bool → Flags
  | (.ignoreCase, on) => { f with ignoreCase := on }
  | (.multiLine, on) => { f with multiLine := on }
  | (.dotAll, on) => { f with dotAll := on }
  | (.swapGreed, on) => { f with swapGreed := on }
  | (.unicode, on) => { f with unicode := on }
  | (.crlf, on) => { f with crlf := on }
  | (.spaced, _) => f

/-- Flags switched in order. -/
def apply (f : Flags) (set : FlagSet) : Flags := set.foldl switch f

end Flags

/-! ## Classes -/

/-- The ASCII characters of a class such as `[:alpha:]`. -/
def namedSet (name : String) : CodeSet :=
  CodeSet.ofRanges (match name with
    | "alnum" => [(48, 57), (65, 90), (97, 122)]
    | "alpha" => [(65, 90), (97, 122)]
    | "ascii" => [(0, 127)]
    | "blank" => [(9, 9), (32, 32)]
    | "cntrl" => [(0, 31), (127, 127)]
    | "digit" => [(48, 57)]
    | "graph" => [(33, 126)]
    | "lower" => [(97, 122)]
    | "print" => [(32, 126)]
    | "punct" => [(33, 47), (58, 64), (91, 96), (123, 126)]
    | "space" => [(9, 13), (32, 32)]
    | "upper" => [(65, 90)]
    | "word" => [(48, 57), (65, 90), (95, 95), (97, 122)]
    | "xdigit" => [(48, 57), (65, 70), (97, 102)]
    | _ => [])

/-- The characters of a class such as `\w`. -/
def Shorthand.characters : Shorthand → CodeSet
  | .digit => Unicode.decimalDigit
  | .blank => Unicode.blank
  | .word => Unicode.wordCharacter

/-- The ASCII characters of a class such as `\w`. -/
def Shorthand.ascii : Shorthand → CodeSet
  | .digit => namedSet "digit"
  | .blank => namedSet "space"
  | .word => namedSet "word"

/-- How classes are formed: for what flags, and whether matches must be UTF-8. -/
structure ClassMode where
  flags : Flags
  /-- The pattern is for text. -/
  utf8 : Bool

/-- The set with the other cases of its members, where case does not matter. -/
def ClassMode.fold (m : ClassMode) (s : CodeSet) : CodeSet :=
  if ! m.flags.ignoreCase then s
  else if m.flags.unicode then Unicode.foldClose s
  else Unicode.foldCloseAscii s

/-- The set or all that is not in it. -/
def ClassMode.negateIf (m : ClassMode) (negated : Bool) (s : CodeSet) : CodeSet :=
  if ! negated then s
  else if m.flags.unicode then s.negate
  else s.negateBelow 255

/-- The set, unless it has octets that are not ASCII in a pattern for text. -/
def ClassMode.check? (m : ClassMode) (s : CodeSet) : Option CodeSet :=
  if ! m.flags.unicode && m.utf8 && ! (s.difference (CodeSet.range 0 127)).isEmpty then none
  else some s

/-- The member of a class that a literal is. -/
def ClassMode.literal? (m : ClassMode) (l : Literal) : Option Nat :=
  let n := l.char.toNat
  if m.flags.unicode || n < 128 then some n
  else if l.isOctet && ! m.utf8 then some n
  else none

/-- The set after an operator of a class. -/
def ClassOp.run : ClassOp → CodeSet → CodeSet → CodeSet
  | .intersection => CodeSet.inter
  | .difference => CodeSet.difference
  | .symmetricDifference => CodeSet.symmetricDifference

mutual

/-- The set of a class. -/
def ClassTree.toSet? (m : ClassMode) : ClassTree → Option CodeSet
  | .literal l => (m.literal? l).map CodeSet.single
  | .range a b => do
    let low ← m.literal? a
    let high ← m.literal? b
    return CodeSet.range low high
  | .named negated name => m.check? (m.negateIf negated (m.fold (namedSet name)))
  | .shorthand negated s =>
    m.check? (m.negateIf negated (if m.flags.unicode then s.characters else s.ascii))
  | .property negated name value =>
    if ! m.flags.unicode then none
    else (NamedSet.find? name value).map fun s => m.negateIf negated (m.fold s)
  | .bracketed negated inside => do
    let s ← ClassTree.toSet? m inside
    m.check? (m.negateIf negated (m.fold s))
  | .union parts => do
    let sets ← ClassTree.toSets? m parts
    return CodeSet.unions sets
  | .combine op left right => do
    let l ← ClassTree.toSet? m left
    let r ← ClassTree.toSet? m right
    return op.run (m.fold l) (m.fold r)

/-- The sets of some classes. -/
def ClassTree.toSets? (m : ClassMode) : List ClassTree → Option (List CodeSet)
  | [] => some []
  | part :: rest => do
    let s ← ClassTree.toSet? m part
    let more ← ClassTree.toSets? m rest
    return s :: more

end

/-! ## Patterns -/

/-- One member of a set: a character or an octet by the flags. -/
def Flags.expr (f : Flags) (s : CodeSet) : Expr := if f.unicode then .char s else .octet s

/-- A literal. An octet above 127 matches itself only where matches need not be UTF-8. -/
def literalExpr? (m : ClassMode) (l : Literal) : Option Expr :=
  let n := l.char.toNat
  if ! m.flags.unicode && l.isOctet && 128 ≤ n then
    if m.utf8 then none else some (.octet (CodeSet.single n))
  else if m.flags.unicode then some (.char (m.fold (CodeSet.single n)))
  else some (.char (if n < 128 then m.fold (CodeSet.single n) else CodeSet.single n))

/-- The dot: any character or octet, but for line ends where the flags say so. -/
def dotExpr? (m : ClassMode) : Option Expr :=
  let lineEnds := if m.flags.dotAll then []
    else if m.flags.crlf then [(10, 10), (13, 13)]
    else [(10, 10)]
  if m.flags.unicode then some (.char (CodeSet.ofRanges lineEnds).negate)
  else if m.utf8 then none
  else some (.octet ((CodeSet.ofRanges lineEnds).negateBelow 255))

/-- The test of an assertion. -/
def Assertion.look (f : Flags) : Assertion → Look
  | .lineStart => if ! f.multiLine then .textStart else if f.crlf then .crlfStart else .lineStart
  | .lineEnd => if ! f.multiLine then .textEnd else if f.crlf then .crlfEnd else .lineEnd
  | .textStart => .textStart
  | .textEnd => .textEnd
  | .wordEdge => .wordEdge f.unicode
  | .noWordEdge => .noWordEdge f.unicode
  | .wordStart => .wordStart f.unicode
  | .wordEnd => .wordEnd f.unicode
  | .wordStartHalf => .wordStartHalf f.unicode
  | .wordEndHalf => .wordEndHalf f.unicode

mutual

/-- A pattern with its flags applied, and the flags in force after it. -/
def Tree.toExpr? (utf8 : Bool) (f : Flags) : Tree → Option (Expr × Flags)
  | .empty => some (.empty, f)
  | .flags switches => some (.empty, f.apply switches)
  | .literal l => (literalExpr? ⟨f, utf8⟩ l).map fun e => (e, f)
  | .dot => (dotExpr? ⟨f, utf8⟩).map fun e => (e, f)
  | .assertion a => some (.look (a.look f), f)
  | .set s => (s.toSet? ⟨f, utf8⟩).map fun s => (f.expr s, f)
  | .repetition min max greedy sub => do
    let (e, f) ← Tree.toExpr? utf8 f sub
    return (.repetition min max (greedy != f.swapGreed) e, f)
  | .group (.capture index _) sub => do
    let (e, _) ← Tree.toExpr? utf8 f sub
    return (.capture index e, f)
  | .group (.plain switches) sub => do
    let (e, _) ← Tree.toExpr? utf8 (f.apply switches) sub
    return (e, f)
  | .alternation branches => do
    let (es, f) ← Tree.toExprs? utf8 f branches
    return (.alternation es, f)
  | .concat parts => do
    let (es, f) ← Tree.toExprs? utf8 f parts
    return (.concat es, f)

/-- Some patterns with their flags applied, each after the one before. -/
def Tree.toExprs? (utf8 : Bool) (f : Flags) : List Tree → Option (List Expr × Flags)
  | [] => some ([], f)
  | t :: rest => do
    let (e, f) ← Tree.toExpr? utf8 f t
    let (es, f) ← Tree.toExprs? utf8 f rest
    return (e :: es, f)

end

/-! ## Lengths -/

mutual

/-- The least number of characters or octets of a match; none where nothing matches. -/
def Expr.minLength? : Expr → Option Nat
  | .empty | .look _ => some 0
  | .char s | .octet s => if s.isEmpty then none else some 1
  | .repetition min _ _ sub => if min = 0 then some 0 else (sub.minLength?).map (· * min)
  | .capture _ sub => sub.minLength?
  | .concat parts => Expr.totalMinLength? parts
  | .alternation branches => Expr.leastMinLength? branches

/-- The least number of characters or octets of a match of all parts. -/
def Expr.totalMinLength? : List Expr → Option Nat
  | [] => some 0
  | e :: rest => do
    let n ← e.minLength?
    let m ← Expr.totalMinLength? rest
    return n + m

/-- The least number of characters or octets of a match of any branch. -/
def Expr.leastMinLength? : List Expr → Option Nat
  | [] => none
  | [e] => e.minLength?
  | e :: rest => do
    let n ← e.minLength?
    let m ← Expr.leastMinLength? rest
    return min n m

end

/-- Every match has some length. -/
def Expr.consumes (e : Expr) : Bool := e.minLength?.any (0 < ·)

mutual

/-- Every match is empty. -/
def Expr.isEmptyOnly : Expr → Bool
  | .empty | .look _ => true
  | .char _ | .octet _ => false
  | .repetition _ max _ sub => max == some 0 || sub.isEmptyOnly
  | .capture _ sub => sub.isEmptyOnly
  | .concat parts | .alternation parts => Expr.areEmptyOnly parts

/-- Every match of each part is empty. -/
def Expr.areEmptyOnly : List Expr → Bool
  | [] => true
  | e :: rest => e.isEmptyOnly && Expr.areEmptyOnly rest

end

end ProxyFilter.Pattern
