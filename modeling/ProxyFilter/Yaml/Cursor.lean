import ProxyFilter.Yaml.Plain

/-!
# Places in a text

A `Cursor` is a place in a YAML text: what is left to read, the line, the column, and how far the
line is indented. Only a line feed begins the count of columns again. Blank lines and comments are
skipped between nodes (`Cursor.skip`); a node that begins a line belongs to the collections that
are indented less, so its column decides what it is part of. Indentation is made of spaces alone:
a line with a tab in front has its column behind its indentation.
-/

namespace ProxyFilter.Yaml

open Plain

/-- A place in a text. -/
structure Cursor where
  /-- What is left of the text. -/
  rest : List Char
  /-- The number of line ends before this place. -/
  line : Nat
  /-- The number of characters since the last line feed. -/
  column : Nat
  /-- The number of spaces that the line begins with, as far as it is read. -/
  indent : Nat
  /-- The line holds only spaces up to this place. -/
  leading : Bool
  deriving DecidableEq, Repr

namespace Cursor

/-- The beginning of a text. -/
def start (text : List Char) : Cursor := ⟨text, 0, 0, 0, true⟩

/-- Past a character of which `rest` is left. -/
def past (c : Cursor) (x : Char) (rest : List Char) : Cursor :=
  if x = '\n' then ⟨rest, c.line + 1, 0, 0, true⟩
  else if x = '\r' then ⟨rest, c.line + 1, c.column + 1, c.column + 1, true⟩
  else if x = ' ' then ⟨rest, c.line, c.column + 1, if c.leading then c.indent + 1 else c.indent,
    c.leading⟩
  else ⟨rest, c.line, c.column + 1, c.indent, false⟩

/-- Past so many characters. -/
def advance : Nat → Cursor → Cursor
  | 0, c => c
  | n + 1, c =>
    match c.rest with
    | [] => c
    | x :: rest => advance n (c.past x rest)

/-- The characters of a kind at a place, reversed before others, and the place past them;
`rest` is what is left. -/
def spanLoop (p : Char → Bool) (found : List Char) : Cursor → List Char → List Char × Cursor
  | c, [] => (found.reverse, c)
  | c, x :: rest =>
    if p x then spanLoop p (x :: found) (c.past x rest) rest else (found.reverse, c)

/-- The characters of a kind at a place, and the place past them. -/
def span (c : Cursor) (p : Char → Bool) : List Char × Cursor := spanLoop p [] c c.rest

/-- The blanks at a place, and the place past them. -/
def blanks (c : Cursor) : List Char × Cursor := c.span isBlank

/-- The number of line ends among blanks at a place, and the place past all of them; `rest` is what
is left. -/
def lineEndsLoop (count : Nat) : Cursor → List Char → Nat × Cursor
  | c, [] => (count, c)
  | c, x :: rest =>
    if isBreak x then lineEndsLoop (count + 1) (c.past x rest) rest
    else if isBlank x then lineEndsLoop count (c.past x rest) rest
    else (count, c)

/-- The number of line ends among blanks at a place, and the place past all of them. -/
def lineEnds (c : Cursor) : Nat × Cursor := lineEndsLoop 0 c c.rest

/-- Where skipping stands in a line. -/
inductive Skipping
  /-- After a blank or at the beginning of a line, where a comment may begin. -/
  | afterBlank
  /-- After anything else. -/
  | afterText
  /-- In a comment. -/
  | comment
  deriving DecidableEq, Repr

/-- The next content after blanks, line ends and comments; `rest` is what is left. -/
def skipLoop : Skipping → Cursor → List Char → Cursor
  | _, c, [] => c
  | s, c, x :: rest =>
    if isBreak x then skipLoop .afterBlank (c.past x rest) rest
    else if s = .comment then skipLoop .comment (c.past x rest) rest
    else if isBlank x then skipLoop .afterBlank (c.past x rest) rest
    else if x = '#' ∧ s = .afterBlank then skipLoop .comment (c.past x rest) rest
    else c

/-- The next content after blanks, line ends and comments. A comment follows a blank. -/
def skip (c : Cursor) : Cursor :=
  skipLoop (if c.column = 0 then .afterBlank else .afterText) c c.rest

/-- Nothing is left. -/
def isEnd (c : Cursor) : Bool := c.rest.isEmpty

/-- A document ends or begins here. -/
def isMarker (c : Cursor) : Bool :=
  c.column == 0
    && (['-', '-', '-'].isPrefixOf c.rest || ['.', '.', '.'].isPrefixOf c.rest)
    && standsAlone .block (c.rest.drop 3)

/-- There is content of the document here, in a line that is indented so far at least. -/
def isWithin (c : Cursor) (least : Nat) : Bool := ! c.isEnd && least ≤ c.indent && ! c.isMarker

/-- Only spaces are before this place in its line, so that a block collection may begin here. -/
def isAligned (c : Cursor) : Bool := c.column == c.indent

/-- The mark of an item of a sequence stands here. -/
def isItem (c : Cursor) : Bool :=
  match c.rest with
  | '-' :: rest => standsAlone .block rest && ! c.isMarker
  | _ => false

/-- A mark stands alone here. -/
def isMark (c : Cursor) (context : Context) (mark : Char) : Bool :=
  match c.rest with
  | x :: rest => x == mark && standsAlone context rest
  | [] => false

end Cursor

/-- What `count` line ends in a row become when lines are joined. -/
def joinLines (count : Nat) : List Char :=
  if count ≤ 1 then [' '] else List.replicate (count - 1) '\n'

end ProxyFilter.Yaml
