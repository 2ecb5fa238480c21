import ProxyFilter.Http.Host

/-!
# Web addresses

`WebAddress.parse?` reads an absolute `http` or `https` address the way browsers do: blanks and
controls at the ends and tabs and line breaks anywhere are passed over, any number of slashes and
backslashes may stand before the authority, and the authority ends at a slash, a backslash, a
question mark or a number sign. Only the parts that decide whether an address is valid are kept.
-/

namespace ProxyFilter

/-- An absolute web address. -/
structure WebAddress where
  /-- The scheme is `https` and not `http`. -/
  secure : Bool
  host : Host
  /-- The port, where one is given. -/
  port : Option Nat
  deriving DecidableEq, Repr

namespace WebAddress

/-- A character that browsers trim: a control or a space. -/
def isTrimmed (c : Char) : Bool := c.toNat ≤ 32

/-- A character that browsers pass over anywhere in an address. -/
def isPassedOver (c : Char) : Bool := c == '\t' || c == '\n' || c == '\r'

/-- The text of an address without what browsers pass over. -/
def clean (cs : List Char) : List Char :=
  (((cs.dropWhile isTrimmed).reverse.dropWhile isTrimmed).reverse).filter fun c => ! isPassedOver c

/-- A character that ends the authority. -/
def endsAuthority (c : Char) : Bool := c == '/' || c == '\\' || c == '?' || c == '#'

/-- What follows the scheme and its colon, with whether the scheme is `https`. -/
def afterScheme? (cs : List Char) : Option (Bool × List Char) :=
  let scheme := (cs.takeWhile (· != ':')).map Char.toLower
  let rest := (cs.dropWhile (· != ':')).drop 1
  if (cs.dropWhile (· != ':')).isEmpty then none
  else if scheme = "http".toList then some (false, rest)
  else if scheme = "https".toList then some (true, rest)
  else none

/-- The host and port of an authority: what follows its last `@`. -/
def withoutUser (authority : List Char) : List Char :=
  (authority.reverse.takeWhile (· != '@')).reverse

/-- The host that a text begins with, up to a colon outside brackets, and the rest. -/
def splitHost (inside : Bool) : List Char → List Char × List Char
  | [] => ([], [])
  | c :: rest =>
    if c = ':' ∧ ! inside then ([], c :: rest)
    else
      let (host, after) := splitHost (if c = '[' then true else if c = ']' then false else inside)
        rest
      (c :: host, after)

/-- The port after a host: nothing, or a colon and a number below `2 ^ 16`, which may be absent. -/
def port? (cs : List Char) : Option (Option Nat) :=
  match cs with
  | [] => some none
  | _ :: digits =>
    if digits.isEmpty then some none
    else if digits.all Char.isDigit then
      let n := digits.foldl (fun n c => 10 * n + (c.toNat - 48)) 0
      if n < 65536 then some (some n) else none
    else none

/-- Reads a web address. -/
def parse? (text : String) : Option WebAddress := do
  let (secure, rest) ← afterScheme? (clean text.toList)
  let authority := (rest.dropWhile fun c => c == '/' || c == '\\').takeWhile
    fun c => ! endsAuthority c
  let (host, after) := splitHost false (withoutUser authority)
  let host ← Host.parse? host
  let port ← port? after
  return { secure, host, port }

end WebAddress

end ProxyFilter
