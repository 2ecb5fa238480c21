import ProxyFilter.PublicKey.Asn1
import ProxyFilter.Text.Base64
import ProxyFilter.Text.Blank
import ProxyFilter.Text.Split

/-!
# Key files

A key file is a block of base64 lines between a line that begins it and a line that ends it, both
with the same label (`Armor.parse?`); only the first block counts. `Armor.rsaKey?` finds the octets
of an RSA key in it. Labels that name RSA hold such a key and nothing else; general labels hold a
structure that names the kind of key and has the key in its first string.
-/

namespace ProxyFilter

/-- A block of a key file. -/
structure Armor where
  label : String
  contents : Bytes
  deriving DecidableEq, Repr

namespace Armor

/-- How many octets there are up to the end of a marker, of which `left` is still to come. Octets
are compared one at a time: one that does not fit is passed over, and the marker has to begin
after it. -/
def markerEnd? (marker : Bytes) : Bytes → Bytes → Option Nat
  | [], _ => some 0
  | _ :: _, [] => none
  | m :: left, b :: rest =>
    (markerEnd? marker (if b = m then left else marker) rest).map (· + 1)

/-- What comes before and after a marker. -/
def splitAtMarker? (text : String) (b : Bytes) : Option (Bytes × Bytes) :=
  let marker := Utf8.encode text
  (markerEnd? marker marker b).map fun n => (b.take (n - marker.length), b.drop n)

/-- A blank after the line that begins a block. -/
def isSkipped (b : UInt8) : Bool := b == 32 || b == 9 || b == 10 || b == 13

/-- The lines of remarks at the beginning of a body, which a blank line ends, and the rest. -/
def splitRemarks (body : Bytes) : Bytes × Bytes :=
  match splitAtMarker? "\n\n" body with
  | some parts => parts
  | none => (splitAtMarker? "\r\n\r\n" body).getD ([], body)

/-- The octets of base64 text, in which blanks do not count. -/
def contents? (data : String) : Option Bytes :=
  Base64.decodeChars? .standard .required (data.toList.filter fun c => ! Text.isBlank c)

/-- A label and remarks that are in order, and what the lines between them hold. -/
def ofParts? (label endLabel remarks data : Bytes) : Option Armor := do
  let label ← Utf8.decode? label
  let endLabel ← Utf8.decode? endLabel
  let remarks ← Utf8.decode? remarks
  let contents ← (Utf8.decode? data).bind contents?
  if label.isEmpty ∨ label ≠ endLabel then none
  if (Text.lines remarks).any fun line => ! line.toList.contains ':' then none
  return ⟨label, contents⟩

/-- Reads the first block of a key file. -/
def parse? (b : Bytes) : Option Armor := do
  let (_, b) ← splitAtMarker? "-----BEGIN " b
  let (label, b) ← splitAtMarker? "-----" b
  let (body, b) ← splitAtMarker? "-----END " (b.dropWhile isSkipped)
  let (endLabel, _) ← splitAtMarker? "-----" b
  let (remarks, data) := splitRemarks body
  ofParts? label endLabel remarks data

/-- The object identifier of RSA keys. -/
def rsaIdentifier : List Nat := [1, 2, 840, 113549, 1, 1, 1]

/-- The object identifiers that tell the kind of a key: RSA, elliptic curves, Edwards curves. -/
def keyIdentifiers : List (List Nat) := [rsaIdentifier, [1, 2, 840, 10045, 2, 1], [1, 3, 101, 112]]

/-- The octets of the RSA key in a block. -/
def rsaKey? (a : Armor) : Option Bytes := do
  let values ← Asn1.parse? a.contents
  if a.label = "RSA PUBLIC KEY" ∨ a.label = "RSA PRIVATE KEY" then return a.contents
  if ["PUBLIC KEY", "PRIVATE KEY", "CERTIFICATE"].contains a.label ∧
      Asn1.firstIdentifierOf? keyIdentifiers values = some rsaIdentifier then
    Asn1.firstStringOf? values
  else none

end Armor

end ProxyFilter
