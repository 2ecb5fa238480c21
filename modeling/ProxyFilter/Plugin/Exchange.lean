import ProxyFilter.Plugin.Request

/-!
# Exchanges

An `Exchange` is the state that a plugin keeps from one phase of a request and its response to the
next: what the host told about the client, whether the exchange was stopped, and how the body is
changed. The phases are `Exchange.requestHeaders`, `Exchange.responseHeaders` and
`Exchange.responseBody`; once an exchange is stopped they do nothing.
-/

namespace ProxyFilter

/-- The state of one exchange. -/
structure Exchange where
  /-- What the host has told, the last told first. -/
  properties : Plugin.Properties
  /-- The body as a stream of markup, if there are rules for it. -/
  stream : Option Html.StreamState
  /-- The body is masked. -/
  mask : Bool
  /-- The exchange was stopped. -/
  closed : Bool

namespace Exchange

/-- The state in which an exchange begins. -/
def start : Exchange := ⟨[], none, false, false⟩

/-- With one more property, in place of one with the same name. -/
def setProperty (x : Exchange) (name value : String) : Exchange :=
  { x with properties := (name, value) :: x.properties.filter (·.1 != name) }

/-- What the host has told under a name. -/
def property? (x : Exchange) (name : String) : Option String := x.properties.lookup name

/-- The number of octets of the body that are held back. -/
def pendingBytes (x : Exchange) : Nat := (x.stream.map fun s => s.pending.length).getD 0

/-- The exchange after it is stopped. -/
def close (x : Exchange) : Exchange := { x with stream := none, mask := false, closed := true }

/-- Stops the exchange with the response for a rejection. -/
def reject (x : Exchange) (e : Rejection) : Exchange × Decision :=
  (x.close, .respond (.ofRejection e))

/-! ## Headers -/

/-- The phase of the request headers: the state after it, the headers, and what to do. -/
def requestHeaders (p : Plugin) (now : Instant) (x : Exchange) (headers : HeaderSet) :
    Exchange × HeaderSet × Decision :=
  if x.closed then (x, headers, .proceed)
  else
    match p.routeRequest x.properties now headers with
    | (e, none) => (x, e.headers, .ofModified e.modified)
    | (e, some (.redirect status location)) => (x.close, e.headers, .redirect status location)
    | (e, some (.reject reason)) =>
      let (x, decision) := x.reject reason
      (x, e.headers, decision)

/-- The media type of a response, without parameters and in lower case. -/
def mediaType (headers : HeaderSet) : String :=
  let value := (headers.get? Header.contentType).getD ""
  Ascii.lower (Text.trim (Text.before ';' value))

/-- Bodies of this media type are masked. -/
def isMaskable (media : String) : Bool :=
  media.startsWith "text/" || media == "application/json" || media == "application/javascript"

/-- The number of the status of a response. -/
def statusCode? (headers : HeaderSet) : Option Nat :=
  (headers.get? Header.status).bind fun s => Text.natBelow? 65536 (Text.trim s)

/-- Why a response goes no further on account of its status. -/
def checkStatus (p : Plugin) (headers : HeaderSet) : Except LocalResponse Unit :=
  match p.statusRemap with
  | none => .ok ()
  | some r =>
    match statusCode? headers with
    | none =>
      .error (.ofRejection (.parseFailure .response "missing or invalid :status"))
    | some code =>
      if Status.remap code r.statusClass r.target.code = code then .ok ()
      else .error (.text r.target r.target.reason)

/-- The exchange with what is to be done with a body of a media type. -/
def prepareBody (p : Plugin) (x : Exchange) (media : String) : Exchange :=
  { x with
    stream := if media = "text/html" then p.html.map Html.Editor.start else none
    mask := ! p.masker.isEmpty && isMaskable media }

/-- The body is changed. -/
def changesBody (x : Exchange) : Bool := x.stream.isSome || x.mask

/-- The phase of the response headers: the state after it, the headers, and what to do. The length
of a body that is changed is not told. -/
def responseHeaders (p : Plugin) (x : Exchange) (headers : HeaderSet) :
    Exchange × HeaderSet × Decision :=
  if x.closed then (x, headers, .proceed)
  else
    match checkStatus p headers with
    | .error response => (x.close, headers, .respond response)
    | .ok () =>
      let x := x.prepareBody p (mediaType headers)
      if x.changesBody && headers.contains Header.contentLength then
        (x, headers.remove Header.contentLength, .proceedModified)
      else (x, headers, .proceed)

/-! ## Bodies -/

/-- Edits a chunk, and what is held back too after the last one. -/
def editChunk (r : Html.Editor) (s : Html.StreamState) (chunk : Bytes) (isLast : Bool) :
    Html.StreamState × Except Html.StreamError Bytes :=
  match r.feed s chunk with
  | (s, .error e) => (s, .error e)
  | (s, .ok out) =>
    if isLast then
      let (s, tail) := r.finish s
      (s, tail.map fun tail => out ++ tail)
    else (s, .ok out)

/-- Masks a chunk, if the body is masked. -/
def maskChunk (p : Plugin) (x : Exchange) (chunk : Bytes) : Bytes :=
  if x.mask then p.masker.apply chunk else chunk

/-- The exchange after a chunk; after the last one there is nothing more to edit. -/
def afterChunk (x : Exchange) (isLast : Bool) : Exchange :=
  if isLast then { x with stream := none } else x

/-- The phase of one chunk of the response body: the state after it, and what to do. -/
def responseBody (p : Plugin) (x : Exchange) (chunk : Bytes) (isLast : Bool) :
    Exchange × BodyOutcome :=
  if x.closed then (x, .proceed [])
  else
    match x.stream, p.html with
    | some s, some r =>
      match editChunk r s chunk isLast with
      | (_, .error e) => (x.close, .respond (.ofRejection (.ofStreamError e)))
      | (s, .ok out) =>
        (afterChunk { x with stream := some s } isLast, .proceed (maskChunk p x out))
    | _, _ => (afterChunk x isLast, .proceed (maskChunk p x chunk))

end Exchange

end ProxyFilter
