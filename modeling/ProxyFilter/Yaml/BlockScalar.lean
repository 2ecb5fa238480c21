import ProxyFilter.Yaml.Cursor

/-!
# Scalars under a bar or an angle

A block scalar holds the lines under a `|` or `>` that are indented more than what it belongs to.
Under a bar every line end counts, under an angle lines are joined as long as they are not indented
more than the others; a sign tells what becomes of the line ends at the end (`Chomping`).
`BlockScalar.read?` reads the text.
-/

namespace ProxyFilter.Yaml

open Plain

/-- What is done with the line ends at the end of a scalar. -/
inductive Chomping
  | strip
  | clip
  | keep
  deriving DecidableEq, Repr

/-- The first line of a block scalar. -/
structure BlockScalar where
  /-- Lines are joined. -/
  folded : Bool
  chomping : Chomping
  /-- How far the lines are indented more than what they belong to, if it is told. -/
  indent : Option Nat
  deriving DecidableEq, Repr

namespace BlockScalar

/-! ## Heading -/

/-- The number that a digit tells for the indentation. -/
def indent? (c : Char) : Option Nat := if '1' ≤ c ∧ c ≤ '9' then some (c.toNat - 48) else none

/-- What a sign tells of the line ends at the end. -/
def chomping? (c : Char) : Option Chomping := [('-', .strip), ('+', .keep)].lookup c

/-- Takes up the marks after the bar or angle: a sign and a digit, each at most once. -/
def withMarks? (b : BlockScalar) : List Char → Option BlockScalar
  | [] => some b
  | x :: rest =>
    match chomping? x, indent? x with
    | some chomping, _ =>
      if b.chomping = .clip then withMarks? { b with chomping } rest else none
    | none, some n =>
      if b.indent.isNone then withMarks? { b with indent := some n } rest else none
    | none, none => none

/-- Reads the first line after the bar or angle, which ends with blanks and a comment at most. -/
def heading? (folded : Bool) (c : Cursor) : Option (BlockScalar × Cursor) := do
  let (marks, c) := c.span fun x => ! (isBlank x || isBreak x)
  let b ← withMarks? ⟨folded, .clip, none⟩ marks
  let (blanks, c) := c.blanks
  let (remark, c) := c.span fun x => ! isBreak x
  if remark.isEmpty || (remark.head? == some '#' && ! blanks.isEmpty) then some (b, c.advance 1)
  else none

/-! ## Lines -/

/-- The spaces that a line begins with. -/
def indentation (line : List Char) : Nat := (line.takeWhile (· == ' ')).length

/-- The line holds spaces alone. -/
def isBlankLine (line : List Char) : Bool := line.all (· == ' ')

/-- A document ends or begins with this line. -/
def isMarkerLine (line : List Char) : Bool := (Cursor.start line).isMarker

/-- The line belongs to a scalar whose lines are indented so far. -/
def isOwn (indent : Nat) (line : List Char) : Bool :=
  isBlankLine line || (indent ≤ indentation line && ! isMarkerLine line)

/-- The first lines of a text of which a property holds, reversed before `found`, and the rest, in
at most `fuel` steps. -/
def linesWhile (p : List Char → Bool) (found : List (List Char)) :
    Nat → List Char → List (List Char) × List Char
  | 0, rest => (found.reverse, rest)
  | fuel + 1, rest =>
    if rest.isEmpty then (found.reverse, rest)
    else
      let line := rest.takeWhile (· != '\n')
      if p line then linesWhile p (line :: found) fuel ((rest.drop line.length).drop 1)
      else (found.reverse, rest)

/-- The indentation of the lines of a scalar: that of the first line that is not blank, if it is
part of it. No blank line before it, of `fuel` at most, may be longer. -/
def detect? (least fuel : Nat) (rest : List Char) : Option Nat :=
  let (blank, rest) := linesWhile isBlankLine [] fuel rest
  let longest := (blank.map List.length).foldl max 0
  let line := rest.takeWhile (· != '\n')
  if line.isEmpty || indentation line < least || isMarkerLine line then some (max least longest)
  else if longest ≤ indentation line then some (indentation line)
  else none

/-! ## Text -/

/-- The line is indented more than its scalar, so that it is not joined to another. -/
def isSpaced (line : List Char) : Bool := line.head?.any isBlank

/-- Joins lines that are not empty at either end; `count` line ends stand before the next line, and
`spaced` tells of the line before them. -/
def fold (count : Nat) (spaced : Bool) : List (List Char) → List (List Char)
  | [] => []
  | line :: rest =>
    if line.isEmpty then fold (count + 1) spaced rest
    else
      let between :=
        if spaced || isSpaced line then List.replicate count '\n' else joinLines count
      between :: line :: fold 1 (isSpaced line) rest

/-- The text of the lines without the empty ones at the end. -/
def body (folded : Bool) (lines : List (List Char)) : List Char :=
  if folded then
    let leading := lines.takeWhile List.isEmpty
    List.replicate leading.length '\n' ++
      (match lines.drop leading.length with
        | [] => []
        | first :: rest => first ++ (fold 1 (isSpaced first) rest).flatten)
  else ['\n'].intercalate lines

/-- The line ends at the end of a scalar, of which `blank` are those of empty lines. -/
def ending (chomping : Chomping) (isEmpty : Bool) (blank : Nat) : List Char :=
  match chomping with
  | .strip => []
  | .clip => if isEmpty then [] else ['\n']
  | .keep => List.replicate (if isEmpty then blank else blank + 1) '\n'

/-- What a line says: where lines are joined, one that holds spaces alone is empty. -/
def content (b : BlockScalar) (indent : Nat) (line : List Char) : List Char :=
  if b.folded && isBlankLine line then [] else line.drop indent

/-- The text of the lines of a scalar, without their indentation. -/
def text (b : BlockScalar) (lines : List (List Char)) : String :=
  let blank := (lines.reverse.takeWhile List.isEmpty).length
  let kept := lines.take (lines.length - blank)
  String.ofList (body b.folded kept ++ ending b.chomping kept.isEmpty blank)

/-- Reads a scalar of at most `fuel` lines after its bar or angle. Its lines are indented so far at
least; the line that follows must not be indented with a tab. -/
def read? (folded : Bool) (least fuel : Nat) (c : Cursor) : Option (String × Cursor) := do
  let (b, c) ← heading? folded c
  let detected ← detect? least fuel c.rest
  let indent := (b.indent.map (least - 1 + ·)).getD detected
  let (own, rest) := linesWhile (isOwn indent) [] fuel c.rest
  if (rest.dropWhile (· == ' ')).head? == some '\t' then none
  return (b.text (own.map (b.content indent)), ⟨rest, c.line + own.length, 0, 0, true⟩)

end BlockScalar

end ProxyFilter.Yaml
