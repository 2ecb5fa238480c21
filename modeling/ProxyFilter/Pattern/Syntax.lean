/-!
# Patterns as they are written

The tree of a pattern text (`Tree`), before its flags are applied: literals, classes, assertions,
repetitions, groups, alternatives. `Tree.depth` is how deep its parts are nested.
-/

namespace ProxyFilter.Pattern

/-- A switch that changes how the rest of a group is read. -/
inductive Flag
  /-- `i`: letter case does not matter. -/
  | ignoreCase
  /-- `m`: `^` and `$` stand at every line. -/
  | multiLine
  /-- `s`: the dot is any character, line feeds too. -/
  | dotAll
  /-- `U`: repetitions are lazy, and greedy with `?`. -/
  | swapGreed
  /-- `u`: the pattern is about characters and not octets. -/
  | unicode
  /-- `R`: lines may end in a return and a line feed. -/
  | crlf
  /-- `x`: blanks and comments are skipped. -/
  | spaced
  deriving DecidableEq, Repr

/-- Flags that are switched on or off, in order. -/
abbrev FlagSet := List (Flag × Bool)

/-- What an assertion asks of a place in the text. -/
inductive Assertion
  /-- `^`. -/
  | lineStart
  /-- `$`. -/
  | lineEnd
  /-- `\A`. -/
  | textStart
  /-- `\z`. -/
  | textEnd
  /-- `\b`. -/
  | wordEdge
  /-- `\B`. -/
  | noWordEdge
  /-- `\b{start}` and `\<`. -/
  | wordStart
  /-- `\b{end}` and `\>`. -/
  | wordEnd
  /-- `\b{start-half}`. -/
  | wordStartHalf
  /-- `\b{end-half}`. -/
  | wordEndHalf
  deriving DecidableEq, Repr

/-- A character, which may stand for an octet where it is written as `\x` and two digits. -/
structure Literal where
  char : Char
  isOctet : Bool
  deriving DecidableEq, Repr

/-- A class with a letter of its own. -/
inductive Shorthand
  /-- `\d`. -/
  | digit
  /-- `\s`. -/
  | blank
  /-- `\w`. -/
  | word
  deriving DecidableEq, Repr

/-- How the sets on either side of an operator of a class are combined. -/
inductive ClassOp
  /-- `&&`. -/
  | intersection
  /-- `--`. -/
  | difference
  /-- `~~`. -/
  | symmetricDifference
  deriving DecidableEq, Repr

/-- A class of characters. -/
inductive ClassTree
  | literal (l : Literal)
  | range (first last : Literal)
  /-- A class such as `[:alpha:]`. -/
  | named (negated : Bool) (name : String)
  | shorthand (negated : Bool) (s : Shorthand)
  /-- A class such as `\pL` or `\p{sc=Greek}`: the property, if it is given, and the value. -/
  | property (negated : Bool) (property : Option String) (value : String)
  /-- A class in brackets. -/
  | bracketed (negated : Bool) (set : ClassTree)
  /-- The members of any part. -/
  | union (parts : List ClassTree)
  | combine (op : ClassOp) (left right : ClassTree)

/-- A group of a pattern. -/
inductive GroupKind
  /-- The group is numbered from one, and perhaps named. -/
  | capture (index : Nat) (name : Option String)
  /-- The group is not numbered, and has these flags. -/
  | plain (flags : FlagSet)

/-- A pattern as it is written. -/
inductive Tree
  | empty
  /-- Flags for the rest of the group. -/
  | flags (flags : FlagSet)
  | literal (l : Literal)
  | dot
  | assertion (a : Assertion)
  | set (s : ClassTree)
  | repetition (min : Nat) (max : Option Nat) (greedy : Bool) (sub : Tree)
  | group (kind : GroupKind) (sub : Tree)
  | alternation (branches : List Tree)
  | concat (parts : List Tree)

/-! ## Depth -/

mutual

/-- How deep the parts of a class are nested. -/
def ClassTree.depth : ClassTree → Nat
  | .bracketed _ s => s.depth + 1
  | .union parts => ClassTree.depths parts + 1
  | .combine _ l r => max l.depth r.depth + 1
  | _ => 0

/-- The greatest depth of some classes. -/
def ClassTree.depths : List ClassTree → Nat
  | [] => 0
  | s :: rest => max s.depth (ClassTree.depths rest)

end

mutual

/-- How deep the parts of a pattern are nested. -/
def Tree.depth : Tree → Nat
  | .set (.bracketed _ s) => s.depth + 1
  | .repetition _ _ _ sub => sub.depth + 1
  | .group _ sub => sub.depth + 1
  | .alternation branches => Tree.depths branches + 1
  | .concat parts => Tree.depths parts + 1
  | _ => 0

/-- The greatest depth of some patterns. -/
def Tree.depths : List Tree → Nat
  | [] => 0
  | t :: rest => max t.depth (Tree.depths rest)

end

/-- The greatest depth that is accepted. -/
def maxDepth : Nat := 250

end ProxyFilter.Pattern
