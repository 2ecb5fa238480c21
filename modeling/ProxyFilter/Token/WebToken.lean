import ProxyFilter.Time.Instant
import ProxyFilter.Token.Source
import ProxyFilter.Token.StrictToken

/-!
# Tokens signed with a private key

A web token is three segments with dots between them: a header, a payload and a signature, each in
base64 for URLs. `WebToken.parse` takes it apart and `WebToken.verify` accepts it: the header has to
name RS256 and nothing else, the strict reader has to accept the token, and it must not be past its
time where that is asked for. Taking apart forgives `=` signs at the end of header and payload, and
fields that occur twice; the strict reader does not, and the claims are those that it read.
-/

namespace ProxyFilter

/-- A token taken apart. -/
structure WebToken where
  header : Json
  payload : Json
  /-- The last segment, as it is written. -/
  signature : String

namespace WebToken

/-- A fault in the form of a token. -/
def malformed {α : Type} (detail : String) : Except Rejection α := .error (.malformedToken detail)

/-- A text without the `=` signs at its end. -/
def dropFill (segment : String) : String :=
  String.ofList (Text.dropEndWhile (· == '=') segment.toList)

/-- The JSON object of a segment. -/
def segmentObject (segment : String) : Except Rejection Json :=
  match StrictToken.segmentOctets? (dropFill segment) with
  | none => malformed "segment is not base64url"
  | some octets =>
    match Json.parse? octets with
    | none => malformed "segment is not json"
    | some (.object members) => .ok (.object members)
    | some _ => malformed "segment is not a json object"

/-- The three segments of a token. -/
def segments? (raw : String) : Option (String × String × String) :=
  match Text.splitAll '.' raw with
  | [a, b, c] => if a.isEmpty ∨ b.isEmpty ∨ c.isEmpty then none else some (a, b, c)
  | _ => none

/-- Takes a token apart. -/
def parse (raw : String) : Except Rejection WebToken :=
  match segments? raw with
  | none => malformed "expected three non-empty segments"
  | some (header, payload, signature) => do
    let header ← segmentObject header
    let payload ← segmentObject payload
    return ⟨header, payload, signature⟩

/-- The algorithm that the header names. -/
def algorithm? (t : WebToken) : Option String := (t.header.get? "alg").bind Json.string?

/-- The reason for which a token that the strict reader does not accept is refused. -/
def rejectionOf : StrictToken.Fault → Rejection
  | .form | .base64 | .values => .malformedToken "undecodable token"
  | .algorithm | .signature => .signatureInvalid

/-- The claims have a time of expiry that is not past. -/
def isUnexpired (claims : Json) (now : Instant) : Bool :=
  match (claims.get? "exp").bind Json.int64? with
  | some expiry => now.seconds ≤ expiry
  | none => false

/-- Accepts a token and gives its claims, or says why it is refused. -/
def verify (raw : String) (key : PublicKey) (checkExpiry : Bool) (now : Instant) :
    Except Rejection Json := do
  let token ← parse raw
  if token.algorithm? ≠ some StrictToken.algorithm then throw .signatureInvalid
  let claims ← (StrictToken.decode key raw).mapError rejectionOf
  if checkExpiry && ! isUnexpired claims now then throw .expired
  return claims

end WebToken

/-- How web tokens are carried and accepted. -/
structure WebTokenScheme where
  source : TokenSource
  key : PublicKey
  /-- A token needs a time of expiry that is not past. -/
  checkExpiry : Bool

/-- Accepts a token, or says why it is refused. -/
def WebTokenScheme.validate (scheme : WebTokenScheme) (raw : String) (now : Instant) :
    Except Rejection Unit :=
  (WebToken.verify raw scheme.key scheme.checkExpiry now).map fun _ => ()

end ProxyFilter
