/-!
# Cutting texts

Cutting at one character is done once (`splitOnce?`, `splitLast?`) or everywhere (`splitAll`);
`splitText` cuts at every occurrence of a longer text, from the left and without overlap. The
`lines` of a text end at line feeds, and a return before a line feed belongs to the line's end.
-/

namespace ProxyFilter.Text

/-- What stands before and after the first `c`. -/
def splitOnceChars? (c : Char) : List Char → Option (List Char × List Char)
  | [] => none
  | d :: rest =>
    if d = c then some ([], rest)
    else (splitOnceChars? c rest).map fun (before, after) => (d :: before, after)

/-- What stands before and after the last `c`. -/
def splitLastChars? (c : Char) (cs : List Char) : Option (List Char × List Char) :=
  (splitOnceChars? c cs.reverse).map fun (after, before) => (before.reverse, after.reverse)

/-- What stands before and after the first `c` of a text. -/
def splitOnce? (c : Char) (s : String) : Option (String × String) :=
  (splitOnceChars? c s.toList).map fun (a, b) => (String.ofList a, String.ofList b)

/-- What stands before and after the last `c` of a text. -/
def splitLast? (c : Char) (s : String) : Option (String × String) :=
  (splitLastChars? c s.toList).map fun (a, b) => (String.ofList a, String.ofList b)

/-- The parts of a text between the `c`s; one more than there are `c`s. -/
def splitAll (c : Char) (s : String) : List String := (s.toList.splitOn c).map String.ofList

/-- The part of a text before its first `c`, or all of it. -/
def before (c : Char) (s : String) : String := String.ofList (s.toList.takeWhile (· != c))

/-- The parts of `cs` between the occurrences of the delimiter `first :: more`, of which
`gathered` holds the current part reversed and `skip` counts what is left of an occurrence. -/
def splitTextLoop (first : Char) (more : List Char) :
    List Char → List Char → Nat → List (List Char)
  | gathered, [], _ => [gathered.reverse]
  | gathered, c :: cs, 0 =>
    if (first :: more).isPrefixOf (c :: cs) then
      gathered.reverse :: splitTextLoop first more [] cs more.length
    else splitTextLoop first more (c :: gathered) cs 0
  | gathered, _ :: cs, skip + 1 => splitTextLoop first more gathered cs skip

/-- The parts of `cs` between the occurrences of `delimiter`. The empty delimiter occurs before,
between and after all characters. -/
def splitTextChars (delimiter cs : List Char) : List (List Char) :=
  match delimiter with
  | [] => [] :: cs.map (fun c => [c]) ++ [[]]
  | first :: more => splitTextLoop first more [] cs 0

/-- The parts of a text between the occurrences of `delimiter`. -/
def splitText (delimiter s : String) : List String :=
  (splitTextChars delimiter.toList s.toList).map String.ofList

/-- A line without the return that a line feed followed. -/
def dropReturn (line : List Char) : List Char :=
  if line.getLast? = some '\r' then line.dropLast else line

/-- The lines of a text. A line ends at a line feed, with a return before it if there is one; the
end of the text ends a line that is not empty. -/
def lines (s : String) : List String :=
  let parts := s.toList.splitOn '\n'
  let ended := parts.dropLast.map dropReturn
  let last := parts.getLast?.getD []
  ((if last.isEmpty then ended else ended ++ [last])).map String.ofList

end ProxyFilter.Text
