import ProxyFilter.Html.Error
import ProxyFilter.Http.Status

/-!
# Rejections

Why an exchange is stopped (`Rejection`), with three texts for each cause: the `message` for the
operator, the `status` and the short `body` of the response that the client gets. `Stage` is the
step of token checking at which a cause arises.
-/

namespace ProxyFilter

/-- The side of an exchange on which something could not be read. -/
inductive Side
  /-- What the client sent. -/
  | request
  /-- What the server answered. -/
  | response
  deriving DecidableEq, Repr

/-- Why an exchange is stopped. -/
inductive Rejection
  /-- There is no credential where one is expected. -/
  | missingCredential
  /-- The credential does not have the expected form. -/
  | malformedToken (detail : String)
  /-- The signature is not that of the credential. -/
  | signatureInvalid
  /-- The credential is past its time. -/
  | expired
  /-- The credential is for another client, method or path. -/
  | bindingMismatch (field : String)
  /-- The credential is on the denylist. -/
  | denied
  /-- A message could not be read. -/
  | parseFailure (side : Side) (detail : String)
  deriving DecidableEq, Repr

/-- The name of a side in messages. -/
def Side.text : Side → String
  | .request => "Request"
  | .response => "Response"

namespace Rejection

/-- The message for the operator. -/
def message : Rejection → String
  | missingCredential => "missing credential"
  | malformedToken detail => "malformed token: " ++ detail
  | signatureInvalid => "signature invalid"
  | expired => "token expired"
  | bindingMismatch field => "binding mismatch: " ++ field
  | denied => "credential denied"
  | parseFailure side detail => "parse failure (" ++ side.text ++ "): " ++ detail

/-- The status of the response to the client. -/
def status : Rejection → Status
  | missingCredential => .unauthorized
  | malformedToken _ => .badRequest
  | signatureInvalid | expired | bindingMismatch _ | denied => .forbidden
  | parseFailure .request _ => .badRequest
  | parseFailure .response _ => .internalError

/-- The body of the response to the client, which tells causes apart and no more. -/
def body : Rejection → String
  | missingCredential => "missing credential"
  | malformedToken _ => "malformed token"
  | signatureInvalid => "invalid token signature"
  | expired => "token expired"
  | bindingMismatch _ => "client binding mismatch"
  | denied => "access denied"
  | parseFailure .request _ => "bad request"
  | parseFailure .response _ => "internal server error"

/-- A stream that cannot be edited stops the exchange on the response side. -/
def ofStreamError (e : Html.StreamError) : Rejection := parseFailure .response e.message

end Rejection

/-- A step of token checking. -/
inductive Stage
  /-- Finding the token on the request. -/
  | extract
  /-- Taking it apart. -/
  | parseStructure
  /-- Checking its signature. -/
  | verifySignature
  /-- Checking what it claims. -/
  | verifyClaims
  deriving DecidableEq, Repr

/-- The step at which a cause arises. -/
def Stage.ofRejection : Rejection → Stage
  | .missingCredential => .extract
  | .malformedToken _ | .parseFailure _ _ => .parseStructure
  | .signatureInvalid => .verifySignature
  | .expired | .bindingMismatch _ | .denied => .verifyClaims

end ProxyFilter
