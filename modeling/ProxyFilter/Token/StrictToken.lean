import ProxyFilter.Document.Json
import ProxyFilter.PublicKey.Rsa
import ProxyFilter.Text.Base64
import ProxyFilter.Text.Split
import ProxyFilter.Token.JoseHeader

/-!
# Strict reading of web tokens

The signature of a web token is checked by a reader of its own (`StrictToken.decode`), which cuts
the token at its last two dots, takes no `=` signs, and wants the fields of the header and the
claims that have a standard meaning to be well typed and to occur at most once. The claims are read
only once the signature is known to hold.
-/

namespace ProxyFilter.StrictToken

/-- Why a token is not accepted. -/
inductive Fault
  /-- There are not two dots. -/
  | form
  /-- A segment is not base64 for URLs. -/
  | base64
  /-- A segment does not hold the values expected of it. -/
  | values
  /-- The header names another algorithm. -/
  | algorithm
  /-- The signature is not one of the message. -/
  | signature
  deriving DecidableEq, Repr

/-- The algorithm under which signatures are checked. -/
def algorithm : String := "RS256"

/-- A value, or a fault. -/
def orFault {α : Type} (fault : Fault) : Option α → Except Fault α
  | some a => .ok a
  | none => .error fault

/-- The octets of a segment. -/
def segmentOctets? (segment : String) : Option Bytes := Base64.decode? .urlSafe .none segment

/-- Checks the header, which has to be well typed and to name the algorithm. -/
def checkHeader (segment : String) : Except Fault Unit := do
  let octets ← orFault .base64 (segmentOctets? segment)
  let header ← orFault .values (Document.ofJson? octets)
  let named ← orFault .values (JoseHeader.algorithm? header)
  if named = algorithm then return () else throw .algorithm

/-- Checks the signature of a message. -/
def checkSignature (key : PublicKey) (message : Bytes) (segment : String) : Except Fault Unit := do
  let octets ← orFault .base64 (segmentOctets? segment)
  if key.verifies message octets then return () else throw .signature

/-- Reads the claims, of which those with a standard meaning have to be well typed. -/
def readClaims (segment : String) : Except Fault Json := do
  let octets ← orFault .base64 (segmentOctets? segment)
  let claims ← orFault .values (Json.parse? octets)
  let document ← orFault .values (Document.ofJson? octets)
  if JoseHeader.isClaimSet document then return claims else throw .values

/-- Checks a token and gives its claims. -/
def decode (key : PublicKey) (raw : String) : Except Fault Json := do
  let (message, signature) ← orFault .form (Text.splitLast? '.' raw)
  let (header, payload) ← orFault .form (Text.splitLast? '.' message)
  checkHeader header
  checkSignature key (Utf8.encode message) signature
  readClaims payload

end ProxyFilter.StrictToken
