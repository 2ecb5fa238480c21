import ProxyFilter.Http.Header
import ProxyFilter.Rejection
import ProxyFilter.Text.Utf8

/-!
# Decisions

After each phase of an exchange the host is told what to do: go on, or stop and send a response that
the server has no part in. A `Decision` is what is told after headers and a `BodyOutcome` after a
chunk of a body.
-/

namespace ProxyFilter

/-- A response that is made without the server. -/
structure LocalResponse where
  status : Status
  headers : HeaderSet
  body : Bytes
  deriving DecidableEq, Repr

namespace LocalResponse

/-- A response with a plain text. -/
def text (status : Status) (body : String) : LocalResponse where
  status := status
  headers := .ofPairs [(Header.contentType, "text/plain; charset=utf-8")]
  body := Utf8.encode body

/-- The response to a client whose exchange is stopped. -/
def ofRejection (e : Rejection) : LocalResponse := text e.status e.body

/-- A response without a body that sends the client elsewhere. -/
def redirect (status : Status) (location : String) : LocalResponse where
  status := status
  headers := .ofPairs [(Header.location, location)]
  body := []

end LocalResponse

/-- What the host does after a header phase. -/
inductive Decision
  /-- Go on with the headers as they were. -/
  | proceed
  /-- Go on with changed headers. -/
  | proceedModified
  /-- Stop, and send this response. -/
  | respond (response : LocalResponse)
  /-- Stop, and send the client elsewhere. -/
  | redirect (status : Status) (location : String)
  deriving DecidableEq, Repr

namespace Decision

/-- The decision to go on. -/
def ofModified (modified : Bool) : Decision := if modified then proceedModified else proceed

/-- The exchange is over. -/
def stops : Decision → Bool
  | respond _ | redirect _ _ => true
  | _ => false

/-- The response to send, if the exchange is over. -/
def response? : Decision → Option LocalResponse
  | respond r => some r
  | redirect status location => some (.redirect status location)
  | _ => none

end Decision

/-- What the host does after a chunk of a body. -/
inductive BodyOutcome
  /-- Send these octets in place of the chunk. -/
  | proceed (chunk : Bytes)
  /-- Stop, and send this response. -/
  | respond (response : LocalResponse)
  deriving DecidableEq, Repr

end ProxyFilter
