import ProxyFilter.Pattern.Syntax
import ProxyFilter.Text.Ascii
import ProxyFilter.Text.Blank
import ProxyFilter.Unicode.Recent

/-!
# Reading patterns

`Tree.parse?` reads the text of a pattern. Readers thread a `ReadState` and fail where the text is
no pattern; why it is none is not recorded. Each reader that may call itself takes fuel, of which
the length of the text gives enough.
-/

namespace ProxyFilter.Pattern

/-- What is left of the text, and what has been seen of it. -/
structure ReadState where
  rest : List Char
  /-- Blanks and comments are skipped. -/
  spaced : Bool
  /-- How many numbered groups have begun. -/
  groups : Nat
  /-- The names of groups. -/
  names : List (String × Nat)

/-- A reader of a part of a pattern. -/
abbrev Read := StateT ReadState Option

namespace Read

/-! ## Characters -/

/-- The next character, if there is one. -/
def peek? : Read (Option Char) := do return (← get).rest.head?

/-- The next character, which must be there. -/
def peek : Read Char := do
  match (← get).rest with
  | c :: _ => return c
  | [] => failure

/-- Moves past one character. -/
def bump : Read Unit := modify fun s => { s with rest := s.rest.drop 1 }

/-- The rest after the end of a comment's line. -/
def afterLine (cs : List Char) : List Char := (cs.dropWhile (· != '\n')).drop 1

/-- The text from the first character that is neither blank nor in a comment. -/
def skipSpaced : Nat → List Char → List Char
  | 0, cs => cs
  | _, [] => []
  | fuel + 1, c :: cs =>
    if Text.isBlank c then skipSpaced fuel cs
    else if c = '#' then skipSpaced fuel (afterLine cs)
    else c :: cs

/-- Skips blanks and comments where the flag says so. -/
def skip : Read Unit := modify fun s =>
  if s.spaced then { s with rest := skipSpaced (s.rest.length + 1) s.rest } else s

/-- Moves past one character and what is skipped after it. -/
def step : Read Unit := do
  bump
  skip

/-- Moves past one character and what is skipped after it; there must be more. -/
def stepInside : Read Unit := do
  step
  discard peek

/-- Moves past a text, if it comes next. -/
def eat? (text : String) : Read Bool := do
  let s ← get
  if text.toList.isPrefixOf s.rest then
    set { s with rest := s.rest.drop text.length }
    return true
  else return false

/-- Moves past a character that must come next. -/
def expect (c : Char) : Read Unit := do
  if (← peek) = c then bump else failure

/-- Fails unless the condition holds. -/
def ensure (b : Bool) : Read Unit := if b then pure () else failure

/-- The characters that satisfy `p`, each skipped to the next. -/
def takeStepping (p : Char → Bool) : Nat → Read (List Char)
  | 0 => failure
  | fuel + 1 => do
    match ← peek? with
    | some c =>
      if p c then
        step
        return c :: (← takeStepping p fuel)
      else return []
    | none => return []

/-- The length of the text that is left, and one more. -/
def fuel : Read Nat := do return (← get).rest.length + 1

/-! ## Numbers and escapes -/

/-- Moves past blanks, whatever the flags. -/
def skipBlanks : Read Unit := modify fun s => { s with rest := s.rest.dropWhile Text.isBlank }

/-- A decimal number below `2 ^ 32`, with blanks on either side; none where there is no digit. -/
def decimal? : Read (Option Nat) := do
  skipBlanks
  let digits ← takeStepping Char.isDigit (← fuel)
  skipBlanks
  skip
  if digits.isEmpty then return none
  let n := digits.foldl (fun n c => 10 * n + (c.toNat - 48)) 0
  ensure (n < UInt32.size)
  return some n

/-- The value of hexadecimal digits. -/
def hexNat (cs : List Char) : Nat :=
  cs.foldl (fun n c => 16 * n + if c.isDigit then c.toNat - 48 else c.toLower.toNat - 87) 0

/-- The character with a number. -/
def charOfNat (n : Nat) : Read Char :=
  if h : n.isValidChar then pure (Char.ofNatAux n h) else failure

/-- Exactly `n` hexadecimal digits, each of which comes after a step. -/
def hexDigits : Nat → Read (List Char)
  | 0 => pure []
  | n + 1 => do
    let c ← peek
    ensure (Ascii.isHexDigit c)
    if n > 0 then stepInside
    return c :: (← hexDigits n)

/-- The character of an escape by number, after its letter. -/
def hexEscape (letter : Char) : Read Literal := do
  stepInside
  if (← peek) = '{' then
    step
    let digits ← takeStepping Ascii.isHexDigit (← fuel)
    ensure ((← peek) = '}')
    step
    ensure (! digits.isEmpty)
    let c ← charOfNat (hexNat digits)
    return ⟨c, false⟩
  else
    let digits ← hexDigits (if letter = 'x' then 2 else if letter = 'u' then 4 else 8)
    step
    let c ← charOfNat (hexNat digits)
    return ⟨c, letter = 'x'⟩

/-- What stands before and after the first occurrence of `mark`. -/
def cutAt? (mark : List Char) : List Char → Option (List Char × List Char)
  | [] => none
  | c :: cs =>
    if mark.isPrefixOf (c :: cs) then some ([], (c :: cs).drop mark.length)
    else (cutAt? mark cs).map fun (before, after) => (c :: before, after)

/-- The class that a name between braces stands for. -/
def propertyOf (negated : Bool) (name : List Char) : ClassTree :=
  let text := String.ofList
  match cutAt? ['!', '='] name with
  | some (p, v) => .property (! negated) (some (text p)) (text v)
  | none =>
    match (cutAt? [':'] name).orElse fun _ => cutAt? ['='] name with
    | some (p, v) => .property negated (some (text p)) (text v)
    | none => .property negated none (text name)

/-- The class of an escape `\p` or `\P`, at its letter. -/
def propertyEscape (negated : Bool) : Read ClassTree := do
  stepInside
  let c ← peek
  if c = '{' then
    step
    let name ← takeStepping (· != '}') (← fuel)
    expect '}'
    return propertyOf negated name
  else
    ensure (c ≠ '\\')
    step
    return .property negated none (String.ofList [c])

/-- A part of a pattern that an escape or a character stands for. -/
inductive Primitive
  | literal (l : Literal)
  | assertion (a : Assertion)
  | set (s : ClassTree)
  | dot

/-- The edge of a word that the braces after `\b` tell; the braces are left alone where they may be
a repetition. -/
def wordEdge : Read Assertion := do
  if (← peek?) ≠ some '{' then return .wordEdge
  let saved ← get
  stepInside
  let isName (c : Char) : Bool := c.isAlpha || c == '-'
  if ! isName (← peek) then
    set saved
    return .wordEdge
  let name ← takeStepping isName (← fuel)
  expect '}'
  match String.ofList name with
  | "start" => return .wordStart
  | "end" => return .wordEnd
  | "start-half" => return .wordStartHalf
  | "end-half" => return .wordEndHalf
  | _ => failure

/-- The character that an escape of one letter stands for. -/
def letterEscape? (c : Char) : Option Char :=
  match c with
  | 'a' => some '\x07'
  | 'f' => some '\x0c'
  | 't' => some '\t'
  | 'n' => some '\n'
  | 'r' => some '\r'
  | 'v' => some '\x0b'
  | _ => none

/-- A character that may be escaped to stand for itself: of ASCII, and no letter, digit or angle. -/
def standsForItself (c : Char) : Bool :=
  c.toNat < 128 && ! c.isAlphanum && c != '<' && c != '>'

/-- The class of a letter such as `d`. -/
def shorthand? (c : Char) : Option ClassTree :=
  match c with
  | 'd' => some (.shorthand false .digit)
  | 'D' => some (.shorthand true .digit)
  | 's' => some (.shorthand false .blank)
  | 'S' => some (.shorthand true .blank)
  | 'w' => some (.shorthand false .word)
  | 'W' => some (.shorthand true .word)
  | _ => none

/-- Reads an escape, at its backslash. -/
def escape : Read Primitive := do
  bump
  let c ← peek
  if c = 'x' ∨ c = 'u' ∨ c = 'U' then return .literal (← hexEscape c)
  if c = 'p' then return .set (← propertyEscape false)
  if c = 'P' then return .set (← propertyEscape true)
  bump
  if let some s := shorthand? c then return .set s
  if standsForItself c then return .literal ⟨c, false⟩
  if let some d := letterEscape? c then return .literal ⟨d, false⟩
  match c with
  | 'A' => return .assertion .textStart
  | 'z' => return .assertion .textEnd
  | 'b' => return .assertion (← wordEdge)
  | 'B' => return .assertion .noWordEdge
  | '<' => return .assertion .wordStart
  | '>' => return .assertion .wordEnd
  | _ => failure

/-! ## Classes in brackets -/

/-- The names of classes such as `[:alpha:]`. -/
def classNames : List String :=
  ["alnum", "alpha", "ascii", "blank", "cntrl", "digit", "graph", "lower", "print", "punct",
   "space", "upper", "word", "xdigit"]

/-- Reads a class such as `[:alpha:]` from its bracket on, if one comes next. -/
def namedClass? (cs : List Char) : Option (ClassTree × List Char) := do
  let cs ← match cs with
    | '[' :: ':' :: rest => some rest
    | _ => none
  let (negated, cs) := match cs with
    | '^' :: rest => (true, rest)
    | rest => (false, rest)
  let name := String.ofList (cs.takeWhile (· != ':'))
  match cs.dropWhile (· != ':') with
  | ':' :: ']' :: rest =>
    if classNames.contains name then some (.named negated name, rest) else none
  | _ => none

/-- One member of a class: a character or an escape. -/
def classMember : Read Primitive := do
  let c ← peek
  if c = '\\' then escape
  else
    bump
    return .literal ⟨c, false⟩

/-- The member as a part of a class. -/
def asClass : Primitive → Read ClassTree
  | .literal l => pure (.literal l)
  | .set s => pure s
  | _ => failure

/-- The member as an end of a range. -/
def asLiteral : Primitive → Read Literal
  | .literal l => pure l
  | _ => failure

/-- The character after the next one, blanks and comments skipped where the flag says so. -/
def peekAfter? : Read (Option Char) := do
  let s ← get
  let rest := s.rest.drop 1
  return (if s.spaced then skipSpaced (rest.length + 1) rest else rest).head?

/-- A member of a class, or a range of them. -/
def classRange : Read ClassTree := do
  let first ← classMember
  skip
  let c ← peek
  let after ← peekAfter?
  if c ≠ '-' ∨ after = some ']' ∨ after = some '-' then asClass first
  else
    stepInside
    let last ← classMember
    let a ← asLiteral first
    let b ← asLiteral last
    ensure (a.char ≤ b.char)
    return .range a b

/-- The dashes that a class may begin with. -/
def leadingDashes : Nat → Read (List ClassTree)
  | 0 => failure
  | fuel + 1 => do
    if (← peek) = '-' then
      stepInside
      return .literal ⟨'-', false⟩ :: (← leadingDashes fuel)
    else return []

/-- The operator that comes next in a class. -/
def classOp? : Read (Option ClassOp) := do
  if ← eat? "&&" then return some .intersection
  if ← eat? "--" then return some .difference
  if ← eat? "~~" then return some .symmetricDifference
  return none

/-- The set so far: what an operator has on its left, combined with the parts after it. -/
def combined (left : Option (ClassOp × ClassTree)) (parts : List ClassTree) : ClassTree :=
  let right : ClassTree := match parts with
    | [part] => part
    | parts => .union parts.reverse
  match left with
  | some (op, l) => .combine op l right
  | none => right

mutual

/-- Reads a class from its bracket on. -/
def bracketed : Nat → Read ClassTree
  | 0 => failure
  | fuel + 1 => do
    stepInside
    let negated := (← peek) = '^'
    if negated then stepInside
    let dashes ← leadingDashes fuel
    if dashes.isEmpty ∧ (← peek) = ']' then
      stepInside
      return .bracketed negated (← classBody fuel none [.literal ⟨']', false⟩])
    return .bracketed negated (← classBody fuel none dashes)

/-- Reads the inside of a class and its end, after some parts of it. -/
def classBody : Nat → Option (ClassOp × ClassTree) → List ClassTree → Read ClassTree
  | 0, _, _ => failure
  | fuel + 1, left, parts => do
    skip
    let c ← peek
    if c = '[' then
      match namedClass? (← get).rest with
      | some (part, rest) =>
        modify fun s => { s with rest }
        classBody fuel left (part :: parts)
      | none =>
        let part ← bracketed fuel
        classBody fuel left (part :: parts)
    else if c = ']' then
      bump
      return combined left parts
    else
      match ← classOp? with
      | some op => classBody fuel (some (op, combined left parts)) []
      | none =>
        let part ← classRange
        classBody fuel left (part :: parts)

end

/-! ## Groups and repetitions -/

/-- The flag of a letter. -/
def flagOf : Char → Read Flag
  | 'i' => pure .ignoreCase
  | 'm' => pure .multiLine
  | 's' => pure .dotAll
  | 'U' => pure .swapGreed
  | 'u' => pure .unicode
  | 'R' => pure .crlf
  | 'x' => pure .spaced
  | _ => failure

/-- Reads flags up to the `:` or `)` after them. Each may occur once, the minus sign too, and not
last. -/
def flags : Nat → FlagSet → Bool → Bool → Read FlagSet
  | 0, _, _, _ => failure
  | fuel + 1, seen, off, dangling => do
    let c ← peek
    if c = ':' ∨ c = ')' then
      ensure (! dangling)
      return seen.reverse
    else if c = '-' then
      ensure (! off)
      bump
      flags fuel seen true true
    else
      let f ← flagOf c
      ensure (! seen.any fun g => g.1 == f)
      bump
      flags fuel ((f, ! off) :: seen) off false

/-- The state that flags give to one of them. -/
def flagState? (set : FlagSet) (f : Flag) : Option Bool := set.lookup f

/-- A character that a name may begin with. -/
def beginsName (c : Char) : Bool := c == '_' || Unicode.recentAlphabetic.contains c.toNat

/-- A character that a name may have after its first. -/
def continuesName (c : Char) : Bool :=
  c == '_' || c == '.' || c == '[' || c == ']' || Unicode.recentAlphanumeric.contains c.toNat

/-- Reads the name of a group and the `>` after it. No two groups have one name. -/
def groupName : Read String := do
  let name := (← get).rest.takeWhile (· != '>')
  match name with
  | [] => failure
  | c :: cs =>
    ensure (beginsName c && cs.all continuesName)
    modify fun s => { s with rest := s.rest.drop name.length }
    expect '>'
    let name := String.ofList name
    ensure (! (← get).names.any fun n => n.1 == name)
    return name

/-- Numbers a new group. -/
def newGroup : Read Nat := do
  let s ← get
  set { s with groups := s.groups + 1 }
  return s.groups + 1

/-- What an open parenthesis begins. -/
inductive Opening
  | group (kind : GroupKind)
  | flags (flags : FlagSet)

/-- Reads what an open parenthesis begins. Looking around is not supported. -/
def opening : Read Opening := do
  step
  for look in ["?=", "?!", "?<=", "?<!"] do
    ensure (! look.toList.isPrefixOf (← get).rest)
  if (← eat? "?P<") || (← eat? "?<") then
    let index ← newGroup
    let name ← groupName
    modify fun s => { s with names := (name, index) :: s.names }
    return .group (.capture index (some name))
  else if ← eat? "?" then
    let set ← flags (← fuel) [] false false
    if (← peek) = ')' then
      bump
      ensure (! set.isEmpty)
      return .flags set
    else
      bump
      return .group (.plain set)
  else return .group (.capture (← newGroup) none)

/-- The bounds of a repetition between braces, at the brace. -/
def bounds : Read (Nat × Option Nat) := do
  stepInside
  let low ← decimal?
  if (← peek) = ',' then
    stepInside
    let low ← match low with
      | some n => pure n
      | none => failure
    if (← peek) = '}' then return (low, none)
    match ← decimal? with
    | some high => return (low, some high)
    | none => failure
  else
    match low with
    | some n => return (n, some n)
    | none => failure

/-- A repetition of the last part, if there is one that can be repeated. -/
def repeatLast (parts : List Tree) (min : Nat) (max : Option Nat) (greedy : Bool) :
    Read (List Tree) :=
  match parts with
  | [] | .empty :: _ | .flags _ :: _ => failure
  | part :: rest => pure (.repetition min max greedy part :: rest)

/-- Reads the question mark that makes a repetition lazy. -/
def greedy : Read Bool := do
  if (← peek?) = some '?' then
    bump
    return false
  else return true

/-- Some parts, one after another. -/
def sequence : List Tree → Tree
  | [] => .empty
  | [part] => part
  | parts => .concat parts

/-- Some branches, of which the first that fits is taken. -/
def choice : List Tree → Tree
  | [branch] => branch
  | branches => .alternation branches

/-- The part of a pattern that a primitive is. -/
def asTree : Primitive → Tree
  | .literal l => .literal l
  | .assertion a => .assertion a
  | .set s => .set s
  | .dot => .dot

/-- Reads a part of one character or escape. -/
def primitive : Read Primitive := do
  match ← peek with
  | '\\' => escape
  | '.' => bump; return .dot
  | '^' => bump; return .assertion .lineStart
  | '$' => bump; return .assertion .lineEnd
  | c => bump; return .literal ⟨c, false⟩

mutual

/-- Reads branches up to the end of the group. -/
def branches : Nat → Read (List Tree)
  | 0 => failure
  | fuel + 1 => do
    let branch := sequence (← parts fuel [])
    if (← peek?) = some '|' then
      bump
      return branch :: (← branches fuel)
    else return [branch]

/-- Reads the parts of a branch, after some of them. -/
def parts : Nat → List Tree → Read (List Tree)
  | 0, _ => failure
  | fuel + 1, done => do
    skip
    match ← peek? with
    | none | some '|' | some ')' => return done.reverse
    | some '(' =>
      let part ← group fuel
      parts fuel (part :: done)
    | some '[' =>
      let part ← bracketed fuel
      parts fuel (.set part :: done)
    | some '?' =>
      bump
      let greedy ← greedy
      parts fuel (← repeatLast done 0 (some 1) greedy)
    | some '*' =>
      bump
      let greedy ← greedy
      parts fuel (← repeatLast done 0 none greedy)
    | some '+' =>
      bump
      let greedy ← greedy
      parts fuel (← repeatLast done 1 none greedy)
    | some '{' =>
      let (low, high) ← bounds
      ensure ((← peek) = '}')
      step
      let greedy ← greedy
      ensure (high.all (low ≤ ·))
      parts fuel (← repeatLast done low high greedy)
    | some _ =>
      let part ← primitive
      parts fuel (asTree part :: done)

/-- Reads a group, or flags in parentheses. -/
def group : Nat → Read Tree
  | 0 => failure
  | fuel + 1 => do
    match ← opening with
    | .flags set =>
      if let some on := flagState? set .spaced then modify fun s => { s with spaced := on }
      return .flags set
    | .group kind =>
      let outer := (← get).spaced
      if let .plain set := kind then
        if let some on := flagState? set .spaced then modify fun s => { s with spaced := on }
      let inside := choice (← branches fuel)
      expect ')'
      modify fun s => { s with spaced := outer }
      return .group kind inside

end

end Read

/-- A pattern text that has been read: its tree, and the names of its groups. -/
structure Source where
  tree : Tree
  names : List (String × Nat)

/-- Reads the text of a pattern. -/
def Source.parse? (text : String) : Option Source :=
  let cs := text.toList
  match (Read.branches (4 * cs.length + 8)).run ⟨cs, false, 0, []⟩ with
  | some (branches, s) =>
    let tree := Read.choice branches
    if s.rest.isEmpty && tree.depth ≤ maxDepth then some ⟨tree, s.names⟩ else none
  | none => none

end ProxyFilter.Pattern
