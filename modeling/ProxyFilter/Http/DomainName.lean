import ProxyFilter.Text.Punycode
import ProxyFilter.Unicode.Direction
import ProxyFilter.Unicode.DomainMapping
import ProxyFilter.Unicode.Joining
import ProxyFilter.Unicode.Normal

/-!
# Names of domains

A domain may be written in any script. `DomainName.toAscii?` brings it to ASCII: its characters are
mapped, so that forms of a letter that are not told apart become one, the text is composed, and each
label that is left outside ASCII is encoded. A label that is encoded already must stand for one that
mapping leaves as it is. Labels do not begin with a mark; joiners stand where they join; and where
any label is written from right to left, no label mixes the directions.
-/

namespace ProxyFilter.DomainName

open Unicode

/-- An ASCII character that a domain must not have. -/
def isForbidden (c : Char) : Bool :=
  c.toNat ≤ 32 || c.toNat == 127 || "%#/:<>?@[\\]^|".toList.contains c

/-! ## Mapping -/

/-- The characters outside ASCII that stay as they are although their case folding or their category
tells otherwise: the Greek letter at the end of a word, and the two joiners. -/
def isKept (n : Nat) : Bool := [0x3C2, 0x200C, 0x200D].contains n

/-- What a code point becomes; none where a domain may not have it. -/
def mapCode? (n : Nat) : Option (List Nat) :=
  if n < 128 then some [(Char.ofNat n).toLower.toNat]
  else if isKept n then some [n]
  else if domainIgnored.contains n then some []
  else
    match domainMapping.get? n, foldings.lookup n with
    | some text, _ => some text
    | none, some m => some [m]
    | none, none => if domainDisallowed.contains n then none else some [n]

/-- The characters of a name after mapping, composed. -/
def mapped? (name : List Char) : Option (List Char) := do
  let codes ← name.mapM fun c => mapCode? c.toNat
  return (compose codes.flatten).map Char.ofNat

/-- Mapping leaves a label as it is. -/
def isMapped (label : List Char) : Bool :=
  (label.all fun c => mapCode? c.toNat == some [c.toNat]) && mapped? label == some label

/-! ## Joiners -/

/-- A joiner stands between letters that join, with the text before it reversed. -/
def isBetweenJoining (former rest : List Nat) : Bool :=
  (former.dropWhile isTransparent).head?.any joinsNext
    && (rest.dropWhile isTransparent).head?.any joinsFormer

/-- Every joiner stands behind a sign that joins letters, or keeps letters from joining, with the
text before them reversed. -/
def joinersHold (former : List Nat) : List Nat → Bool
  | [] => true
  | n :: rest =>
    (if n = 0x200D then former.head?.any isVirama
      else if n = 0x200C then former.head?.any isVirama || isBetweenJoining former rest
      else true)
      && joinersHold (n :: former) rest

/-! ## Directions -/

/-- The directions of the characters of a label. -/
def directionsOf (label : List Char) : List Direction :=
  label.map fun c => Direction.ofCode c.toNat

/-- A label has characters that are written from right to left. -/
def hasRightward (label : List Char) : Bool :=
  (directionsOf label).any [Direction.right, Direction.rightDigit].contains

/-- The directions of a label go together: it begins and ends in one direction, and has nothing of
the other one. -/
def isUnmixed (directions : List Direction) : Bool :=
  let last := (directions.reverse.dropWhile (· == .mark)).head?
  match directions.head? with
  | none => true
  | some .left =>
    last.any [Direction.left, .digit].contains
      && directions.all [Direction.left, .digit, .mark, .neutral].contains
  | some .right =>
    last.any [Direction.right, .digit, .rightDigit].contains
      && ! directions.contains .left
      && ! (directions.contains .digit && directions.contains .rightDigit)
  | some _ => false

/-! ## Labels -/

/-- A label of a domain. -/
structure Label where
  /-- As it is shown. -/
  shown : List Char
  /-- As it is sent. -/
  ascii : List Char
  deriving DecidableEq, Repr

namespace Label

/-- The beginning of labels that are encoded. -/
def encodedMark : List Char := ['x', 'n', '-', '-']

/-- A label with characters outside ASCII is well-formed. -/
def isShown (label : List Char) : Bool :=
  ! (label.head?.any fun c => recentMarks.contains c.toNat)
    && joinersHold [] (label.map Char.toNat)

/-- Reads what follows the mark of an encoded label. -/
def decode? (digits : List Char) : Option Label := do
  if digits.isEmpty || digits.getLast? == some '-' || 2000 < digits.length
    || digits.any (128 ≤ ·.toNat) then none
  let shown ← Punycode.decode? digits
  if shown.any (fun c => c == '.' || isForbidden c) || ! isMapped shown || ! isShown shown then none
  return ⟨shown, encodedMark ++ digits⟩

/-- Reads a label of a name that is mapped. -/
def parse? (label : List Char) : Option Label :=
  if encodedMark.isPrefixOf label then decode? (label.drop 4)
  else if label.all (·.toNat < 128) then some ⟨label, label⟩
  else if isShown label && label.length ≤ 1000 then
    some ⟨label, encodedMark ++ Punycode.encode label⟩
  else none

end Label

/-! ## Names -/

/-- A domain in ASCII. -/
def toAscii? (name : List Char) : Option (List Char) := do
  let mapped ← mapped? name
  if mapped.any isForbidden then none
  let labels ← (mapped.splitOn '.').mapM Label.parse?
  if labels.any (fun l => hasRightward l.shown)
    && ! labels.all (fun l => isUnmixed (directionsOf l.shown)) then none
  return List.intercalate ['.'] (labels.map Label.ascii)

end ProxyFilter.DomainName
