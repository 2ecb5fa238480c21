import ProxyFilter.Http.Address
import ProxyFilter.Http.DomainName
import ProxyFilter.Text.Percent

/-!
# Hosts of web addresses

The host of a web address is a domain or an address (`Host.parse?`). A domain is percent-decoded
and brought to ASCII. A domain whose last label is a number is an address of four octets, in one to
four numbers of base ten, eight or sixteen.
-/

namespace ProxyFilter

/-- The host of a web address. -/
inductive Host
  /-- A domain, in ASCII. -/
  | domain (name : String)
  /-- An address of four octets, as one number. -/
  | v4 (number : Nat)
  /-- An address of eight groups. -/
  | v6 (groups : List Nat)
  deriving DecidableEq, Repr

namespace Host

/-! ## Addresses in numbers -/

/-- The value of digits in a base, with letters from ten on; none where one is no digit of it. -/
def inBase? (base : Nat) (cs : List Char) : Option Nat :=
  cs.foldlM (fun n c =>
    let d := if c.isDigit then c.toNat - 48 else if c.isAlpha then c.toLower.toNat - 87 else 36
    if d < base then some (n * base + d) else none) 0

/-- A number of an address: base sixteen after `0x`, base eight after another zero, else ten. -/
def number? (cs : List Char) : Option Nat :=
  match cs with
  | [] => none
  | '0' :: x :: rest => if x = 'x' ∨ x = 'X' then inBase? 16 rest else inBase? 8 (x :: rest)
  | cs => inBase? 10 cs

/-- The labels of a domain without the empty one after a dot at its end. -/
def labelsOf (domain : List Char) : List (List Char) :=
  let labels := domain.splitOn '.'
  if labels.getLast? = some [] then labels.dropLast else labels

/-- The last label of a domain is a number. -/
def endsInNumber (domain : List Char) : Bool :=
  match (labelsOf domain).getLast? with
  | none => false
  | some last => (! last.isEmpty && last.all Char.isDigit) || (number? last).isSome

/-- The address that at most four numbers stand for: all but the last are octets, and the last
fills what is left. -/
def v4? (domain : List Char) : Option Nat := do
  let numbers ← (labelsOf domain).mapM number?
  if 4 < numbers.length then none
  let octets := numbers.dropLast
  let last ← numbers.getLast?
  if octets.any (255 < ·) || Nat.pow 256 (4 - octets.length) ≤ last then none
  return (octets.zipIdx.foldl (fun n (octet, i) => n + octet * Nat.pow 256 (3 - i)) last)

/-- Reads a host. -/
def parse? (text : List Char) : Option Host :=
  match text with
  | '[' :: rest =>
    if rest.getLast? = some ']' then (Address.groups? rest.dropLast).map .v6 else none
  | text => do
    let name ← Utf8.decode? (Percent.decodeBytes (Utf8.encode (String.ofList text)))
    let domain ← DomainName.toAscii? name.toList
    if domain.isEmpty then none
    if endsInNumber domain then (v4? domain).map .v4 else some (.domain (String.ofList domain))

/-- The text of a host, as browsers write it. -/
def text : Host → String
  | domain name => name
  | v4 n => Address.octetsText [n / 16777216, n / 65536 % 256, n / 256 % 256, n % 256]
  | v6 groups => "[" ++ Address.shortText groups ++ "]"

end Host

end ProxyFilter
