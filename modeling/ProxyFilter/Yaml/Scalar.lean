import ProxyFilter.Text.Hex
import ProxyFilter.Yaml.Cursor

/-!
# Scalars over several lines

`Cursor.plain` reads a scalar without quotes, `Cursor.singleQuoted?` and `Cursor.doubleQuoted?`
read scalars in quotes. A scalar that goes over a line's end is joined again (`joinLines`): with a
space where the line ends once, with the line ends of the blank lines otherwise. The lines that it
goes on in are indented so far at least as the place of the scalar asks for.
-/

namespace ProxyFilter.Yaml

open Plain

namespace Cursor

/-! ## Without quotes -/

/-- The part of a scalar up to its end in the line and the place past it. Of what is read, `text`
are the characters, reversed, up to the place `stop`, and `blanks` those between it and the place
`c`; the rest is left. -/
def plainLineLoop (context : Context) (text blanks : List Char) (stop c : Cursor) :
    List Char → List Char × Cursor
  | [] => (text.reverse, stop)
  | x :: rest =>
    let next := c.past x rest
    if isBlank x then plainLineLoop context text (x :: blanks) stop next rest
    else if endsBefore context (! blanks.isEmpty) x rest then (text.reverse, stop)
    else plainLineLoop context (x :: (blanks ++ text)) [] next next rest

/-- The part of a scalar up to its end in the line, without the blanks at its end, and the place
past it. -/
def plainLine (c : Cursor) (context : Context) : List Char × Cursor :=
  plainLineLoop context [] [] c c c.rest

/-- The place where a scalar goes on after the end of a line, and the number of line ends before
it. A line that ends with a tab is the last one. -/
def nextLine? (c : Cursor) (least : Nat) : Option (Nat × Cursor) :=
  let (blanks, ending) := c.blanks
  if ! ending.rest.head?.any isBreak || blanks.contains '\t' then none
  else
    let (count, next) := ending.lineEnds
    if next.isWithin least && next.rest.head? != some '#' then some (count, next) else none

/-- The further lines of a scalar, reversed before `text`, `fuel` at most. -/
def plainLines (context : Context) (least : Nat) (text : List Char) :
    Nat → Cursor → List Char × Cursor
  | 0, c => (text.reverse, c)
  | fuel + 1, c =>
    match c.nextLine? least with
    | none => (text.reverse, c)
    | some (count, next) =>
      let (line, after) := next.plainLine context
      if line.isEmpty then (text.reverse, c)
      else plainLines context least (line.reverse ++ joinLines count ++ text) fuel after

/-- Reads a scalar without quotes whose further lines, `fuel` at most, are indented so far at
least. -/
def plain (c : Cursor) (context : Context) (least fuel : Nat) : String × Cursor :=
  let (line, after) := c.plainLine context
  let (text, after) := plainLines context least line.reverse fuel after
  (String.ofList text, after)

/-! ## In quotes -/

/-- The place where a scalar in quotes goes on after the end of a line, and the number of line ends
before it. -/
def goOn? (c : Cursor) (least : Nat) : Option (Nat × Cursor) :=
  let (count, next) := c.lineEnds
  if next.isWithin least then some (count, next) else none

/-- Reads a scalar after its single quote, in at most `fuel` steps; `text` is what is read,
reversed. -/
def singleQuotedLoop (least : Nat) : Nat → List Char → Cursor → Option (String × Cursor)
  | 0, _, _ => none
  | fuel + 1, text, c =>
    let (blanks, next) := c.blanks
    match next.rest with
    | [] => none
    | '\'' :: '\'' :: rest =>
      let next := (next.advance 1).past '\'' rest
      singleQuotedLoop least fuel ('\'' :: (blanks.reverse ++ text)) next
    | '\'' :: rest => some (String.ofList (text.reverse ++ blanks), next.past '\'' rest)
    | x :: rest =>
      if isBreak x then do
        let (count, next) ← next.goOn? least
        singleQuotedLoop least fuel (joinLines count ++ text) next
      else singleQuotedLoop least fuel (x :: (blanks.reverse ++ text)) (next.past x rest)

/-- Reads a scalar of less than `fuel` characters after its single quote. A quote in it is written
twice. -/
def singleQuoted? (c : Cursor) (least fuel : Nat) : Option (String × Cursor) :=
  singleQuotedLoop least fuel [] c

/-- The character that a letter after a backslash stands for. -/
def escape? (c : Char) : Option Char :=
  [('0', '\x00'), ('a', '\x07'), ('b', '\x08'), ('t', '\t'), ('\t', '\t'), ('n', '\n'),
    ('v', '\x0b'), ('f', '\x0c'), ('r', '\r'), ('e', '\x1b'), (' ', ' '), ('"', '"'), ('/', '/'),
    ('\\', '\\'), ('N', '\u0085'), ('_', '\u00a0'), ('L', '\u2028'), ('P', '\u2029')].lookup c

/-- The number of digits after a letter that introduces a code point. -/
def escapeDigits? (c : Char) : Option Nat := [('x', 2), ('u', 4), ('U', 8)].lookup c

/-- The character with a code point in so many hexadecimal digits. -/
def codePoint? (count : Nat) (digits : List Char) : Option Char := do
  if digits.length < count then none
  let n ← (digits.take count).foldlM (fun n c => (Hex.value? c).map (n * 16 + ·)) 0
  if Nat.isValidChar n then return Char.ofNat n else none

/-- The characters that an escape stands for, and the place past it; the backslash is read. -/
def escaped? (c : Cursor) (least : Nat) : Option (List Char × Cursor) :=
  match c.rest with
  | [] => none
  | e :: rest =>
    if isBreak e then do
      let (count, next) ← c.goOn? least
      return (List.replicate (count - 1) '\n', next)
    else
      match escape? e, escapeDigits? e with
      | some x, _ => some ([x], c.past e rest)
      | none, some count => (codePoint? count rest).map fun x => ([x], c.advance (count + 1))
      | none, none => none

/-- Reads a scalar after its double quote, in at most `fuel` steps; `text` is what is read,
reversed. -/
def doubleQuotedLoop (least : Nat) : Nat → List Char → Cursor → Option (String × Cursor)
  | 0, _, _ => none
  | fuel + 1, text, c =>
    let (blanks, next) := c.blanks
    match next.rest with
    | [] => none
    | '"' :: rest => some (String.ofList (text.reverse ++ blanks), next.past '"' rest)
    | '\\' :: rest => do
      let (found, next) ← (next.past '\\' rest).escaped? least
      doubleQuotedLoop least fuel (found.reverse ++ blanks.reverse ++ text) next
    | x :: rest =>
      if isBreak x then do
        let (count, next) ← next.goOn? least
        doubleQuotedLoop least fuel (joinLines count ++ text) next
      else doubleQuotedLoop least fuel (x :: (blanks.reverse ++ text)) (next.past x rest)

/-- Reads a scalar of less than `fuel` characters after its double quote. A line end after a
backslash is left out. -/
def doubleQuoted? (c : Cursor) (least fuel : Nat) : Option (String × Cursor) :=
  doubleQuotedLoop least fuel [] c

end Cursor

end ProxyFilter.Yaml
