import ProxyFilter.Config.DomainMap
import ProxyFilter.Http.Authority
import ProxyFilter.Http.WebAddress

/-!
# Links to other domains

`LinkDomain.replace?` replaces the host of an absolute web address by its target in a domain map.
All else in the address keeps its characters. An address that is not valid, or whose host is not in
the map, is left alone.
-/

namespace ProxyFilter.LinkDomain

/-- The parts of an address around its host. -/
structure Parts where
  /-- What stands before the host: scheme, slashes and user. -/
  head : String
  host : String
  /-- The port, path, query and fragment. -/
  tail : String
  deriving DecidableEq, Repr

/-- A character that ends the authority of an address. -/
def endsAuthority (c : Char) : Bool := c == '/' || c == '?' || c == '#'

/-- What stands before and after `://`. -/
def splitScheme? : List Char → Option (List Char × List Char)
  | [] => none
  | ':' :: '/' :: '/' :: rest => some ([], rest)
  | c :: rest => (splitScheme? rest).map fun (scheme, after) => (c :: scheme, after)

/-- The user of an authority, its `@` included, and the rest. -/
def splitUser (authority : List Char) : List Char × List Char :=
  match Text.splitLastChars? '@' authority with
  | some (user, rest) => (user ++ ['@'], rest)
  | none => ([], authority)

/-- Takes an address apart at its host. -/
def parts? (value : String) : Option Parts := do
  let (scheme, rest) ← splitScheme? value.toList
  let authority := rest.takeWhile fun c => ! endsAuthority c
  let tail := rest.dropWhile fun c => ! endsAuthority c
  let (user, hostPort) := splitUser authority
  let (host, port) := Authority.splitHostPort (String.ofList hostPort)
  return { head := String.ofList (scheme ++ [':', '/', '/'] ++ user), host,
           tail := port ++ String.ofList tail }

/-- The address with its host replaced, if it is valid and its host is in the map. -/
def replace? (map : DomainMap) (value : String) : Option String := do
  let _ ← WebAddress.parse? (Text.trim value)
  let parts ← parts? value
  let target ← map.targetOf? parts.host
  return parts.head ++ target ++ parts.tail

end ProxyFilter.LinkDomain
