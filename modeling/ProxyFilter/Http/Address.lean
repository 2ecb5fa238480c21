import ProxyFilter.Text.Ascii
import ProxyFilter.Text.Blank
import ProxyFilter.Text.Split
import ProxyFilter.Text.Decimal

/-!
# Network addresses

An address is read from the usual texts (`Address.parse?`): four decimal numbers with dots, or
eight hexadecimal groups with colons, of which one run may be left out as `::` and the last two may
be written as four decimal numbers. `Address.text` is the one text that stands for an address, and
`Address.canonical` the form in which two spellings of a client are compared.
-/

namespace ProxyFilter

/-- The address of a network host. -/
inductive Address
  /-- Four octets. -/
  | v4 (octets : List Nat)
  /-- Eight groups of sixteen bits. -/
  | v6 (groups : List Nat)
  deriving DecidableEq, Repr

namespace Address

/-! ## Reading -/

/-- A decimal octet: one to three digits, no leading zero, at most 255. -/
def octet? (cs : List Char) : Option Nat :=
  if cs.length ≤ 3 && (cs.length ≤ 1 || cs.head? != some '0') then
    (Text.natOfChars? cs).filter (· ≤ 255)
  else none

/-- Four octets between dots. -/
def octets? (cs : List Char) : Option (List Nat) :=
  let parts := cs.splitOn '.'
  if parts.length = 4 then parts.mapM octet? else none

/-- The value of a hexadecimal digit. -/
def hexValue (c : Char) : Nat := if c.isDigit then c.toNat - 48 else c.toLower.toNat - 87

/-- A group: one to four hexadecimal digits. -/
def group? (cs : List Char) : Option Nat :=
  if 1 ≤ cs.length && cs.length ≤ 4 && cs.all Ascii.isHexDigit then
    some (cs.foldl (fun n c => 16 * n + hexValue c) 0)
  else none

/-- The two groups that four octets fill. -/
def pair (octets : List Nat) : List Nat :=
  match octets with
  | [a, b, c, d] => [a * 256 + b, c * 256 + d]
  | _ => []

/-- The groups of a run of fields, of which the last may be four octets where `tail` allows it. -/
def groupsOf? (tail : Bool) : List (List Char) → Option (List Nat)
  | [] => some []
  | [field] =>
    match group? field with
    | some g => some [g]
    | none => if tail then (octets? field).map pair else none
  | field :: rest => do
    let g ← group? field
    let more ← groupsOf? tail rest
    return g :: more

/-- The groups on one side of `::`; an empty side has none. -/
def side? (tail : Bool) (cs : List Char) : Option (List Nat) :=
  if cs.isEmpty then some [] else groupsOf? tail (cs.splitOn ':')

/-- What stands before and after the first `::`. -/
def splitGap? : List Char → Option (List Char × List Char)
  | [] => none
  | ':' :: ':' :: rest => some ([], rest)
  | c :: rest => (splitGap? rest).map fun (before, after) => (c :: before, after)

/-- Eight groups between colons, where `::` stands for one or more groups of zero. -/
def groups? (cs : List Char) : Option (List Nat) :=
  match splitGap? cs with
  | none => (groupsOf? true (cs.splitOn ':')).filter (·.length = 8)
  | some (before, after) => do
    let head ← side? false before
    let tail ← side? true after
    if head.length + tail.length < 8 then
      some (head ++ List.replicate (8 - head.length - tail.length) 0 ++ tail)
    else none

/-- Reads an address. -/
def parse? (s : String) : Option Address :=
  match octets? s.toList with
  | some octets => some (.v4 octets)
  | none => (groups? s.toList).map .v6

/-! ## Writing -/

/-- Four octets with dots. -/
def octetsText (octets : List Nat) : String :=
  String.intercalate "." (octets.map fun n => String.ofList (Nat.toDigits 10 n))

/-- Groups with colons, in the fewest lower-case digits. -/
def groupsText (groups : List Nat) : String :=
  String.intercalate ":" (groups.map fun n => String.ofList (Nat.toDigits 16 n))

/-- The number of zeros that a list begins with. -/
def zerosAhead (groups : List Nat) : Nat := (groups.takeWhile (· == 0)).length

/-- The place and length of the longest run of zeros from the place `at` on, the first of several;
`best` is the longest run found before. -/
def longestZeros (best : Nat × Nat) (place : Nat) : List Nat → Nat × Nat
  | [] => best
  | g :: rest =>
    let run := zerosAhead (g :: rest)
    longestZeros (if run > best.2 then (place, run) else best) (place + 1) rest

/-- The four octets that a group list carries when it is a mapped address. -/
def mapped? : List Nat → Option (List Nat)
  | [0, 0, 0, 0, 0, 65535, a, b] => some [a / 256, a % 256, b / 256, b % 256]
  | _ => none

/-- Groups with colons, with the first longest run of two or more zero groups left out. -/
def shortText (groups : List Nat) : String :=
  let (start, run) := longestZeros (0, 0) 0 groups
  if run > 1 then
    groupsText (groups.take start) ++ "::" ++ groupsText (groups.drop (start + run))
  else groupsText groups

/-- The text of an address. A mapped address ends in its four octets. -/
def text : Address → String
  | .v4 octets => octetsText octets
  | .v6 groups =>
    match mapped? groups with
    | some octets => "::ffff:" ++ octetsText octets
    | none => shortText groups

/-! ## Comparing clients -/

/-- An address with a mapped one folded to the four octets it carries. -/
def fold : Address → Address
  | .v4 octets => .v4 octets
  | .v6 groups =>
    match mapped? groups with
    | some octets => .v4 octets
    | none => .v6 groups

/-- The text of a client without the blanks and brackets around it. -/
def bare (s : String) : String :=
  String.ofList (Text.dropEndWhile (· == ']') ((Text.trimChars s.toList).dropWhile (· == '[')))

/-- The form in which clients are compared: an address is folded and written anew, any other text
loses only its letter case. -/
def canonical (s : String) : String :=
  match parse? (bare s) with
  | some a => a.fold.text
  | none => Ascii.lower (bare s)

/-- Two texts name the same client. -/
def sameClient (a b : String) : Bool := canonical a == canonical b

end Address

end ProxyFilter
