import ProxyFilter.Token.Symmetric
import ProxyFilter.Token.WebToken

/-!
# Token schemes

A scheme says where a token travels and when it is accepted. `TokenScheme.validate` takes the token
from a request and checks it; the first step that fails decides why the request is rejected.
-/

namespace ProxyFilter

/-- How tokens are carried and accepted. -/
inductive TokenScheme
  /-- Tokens signed with a shared secret. -/
  | symmetric (scheme : SymmetricScheme)
  /-- Tokens signed with a private key. -/
  | web (scheme : WebTokenScheme)

namespace TokenScheme

/-- Where the token travels. -/
def source : TokenScheme → TokenSource
  | symmetric scheme => scheme.source
  | web scheme => scheme.source

/-- Accepts the token of a request, or says why the request is rejected. -/
def validate (scheme : TokenScheme) (headers : HeaderSet) (now : Instant) :
    Except Rejection Unit := do
  let raw ← scheme.source.extract headers
  match scheme with
  | symmetric scheme => scheme.validate raw headers now
  | web scheme => scheme.validate raw now

end TokenScheme

end ProxyFilter
