import ProxyFilter.Http.Authority
import ProxyFilter.Http.Trace
import ProxyFilter.Plugin.Build
import ProxyFilter.Plugin.Decision

/-!
# Request headers

A request is first checked (`Plugin.checkRequest`): redirects, the denylist and the token schemes
look at it in this order, and the first that stops it decides. Then its headers are edited
(`Plugin.editRequest`): tokens are removed, the path is changed, query parameters are copied to
headers, and the device, the trace and the place of the client are told.
-/

namespace ProxyFilter

/-- Why a request goes no further. -/
inductive Halt
  /-- It is refused. -/
  | reject (reason : Rejection)
  /-- It is sent elsewhere. -/
  | redirect (status : Status) (location : String)
  deriving DecidableEq, Repr

/-- Headers on their way through the stages. -/
structure Edited where
  headers : HeaderSet
  /-- Some stage has changed the headers. -/
  modified : Bool
  deriving DecidableEq, Repr

namespace Edited

/-- With changed headers. -/
def change (_ : Edited) (headers : HeaderSet) : Edited := ⟨headers, true⟩

/-- With one header set. -/
def set (e : Edited) (name value : String) : Edited := e.change (e.headers.set name value)

end Edited

/-! ## Checks -/

namespace RedirectStage

/-- The scheme that the client used: plain only where a header says so. -/
def schemeOf (headers : HeaderSet) : String :=
  let told := ((headers.get? Header.forwardedProto).map (Text.before ',')).orElse fun _ =>
    headers.get? Header.scheme
  if (told.map Text.trim).any (Ascii.sameName · "http") then "http" else "https"

/-- The path of a request, if it has one that begins with a slash. -/
def pathOf (headers : HeaderSet) : String :=
  ((headers.get? Header.path).filter fun p => p.toList.head? == some '/').getD "/"

/-- The host that a request is for, without its port. -/
def hostOf? (headers : HeaderSet) : Option String :=
  ((headers.get? Header.authority).orElse fun _ => headers.get? Header.host).map fun authority =>
    (Authority.splitHostPort (Text.trim authority)).1

/-- Where a request is sent, if its host is in the map. -/
def location? (r : RedirectStage) (headers : HeaderSet) : Option String := do
  let target ← r.map.targetOf? (← hostOf? headers)
  return schemeOf headers ++ "://" ++ target ++ pathOf headers

end RedirectStage

/-- Refuses a request without a token, or with a listed one. -/
def DenylistStage.check (d : DenylistStage) (headers : HeaderSet) : Except Rejection Unit :=
  match ((headers.get? d.header).map Text.trim).filter (! ·.isEmpty) with
  | none => .error .missingCredential
  | some token => if d.entries.contains token then .error .denied else .ok ()

/-- A refusal stops the request. -/
def orReject (r : Except Rejection Unit) : Except Halt Unit := r.mapError Halt.reject

namespace Plugin

/-- Sends a request elsewhere where its host asks for it. -/
def checkRedirect (p : Plugin) (headers : HeaderSet) : Except Halt Unit :=
  match p.redirect with
  | none => .ok ()
  | some r =>
    match r.location? headers with
    | some location => .error (.redirect r.status location)
    | none => .ok ()

/-- Refuses a request by the denylist. -/
def checkDenylist (p : Plugin) (headers : HeaderSet) : Except Rejection Unit :=
  match p.denylist with
  | none => .ok ()
  | some d => d.check headers

/-- All token schemes have to accept a request. -/
def checkTokens (p : Plugin) (headers : HeaderSet) (now : Instant) : Except Rejection Unit :=
  p.auth.forM fun stage => stage.scheme.validate headers now

/-- Lets a request pass, or says why it goes no further. -/
def checkRequest (p : Plugin) (headers : HeaderSet) (now : Instant) : Except Halt Unit := do
  p.checkRedirect headers
  orReject (p.checkDenylist headers)
  orReject (p.checkTokens headers now)

/-! ## Edits -/

/-- Removes the tokens of the schemes that ask for it. -/
def stripTokens (p : Plugin) (e : Edited) : Edited :=
  (p.auth.filter AuthStage.strip).foldl
    (fun e stage => e.change (stage.scheme.source.strip e.headers)) e

/-- Changes the path by its rule. -/
def editPath (p : Plugin) (e : Edited) : Edited :=
  match p.pathRule.bind fun rule => (e.headers.get? Header.path).bind rule.transform with
  | some path => e.set Header.path path
  | none => e

/-- A value that a header can hold: of the control characters it has tabs at most. -/
def isHeaderValue (value : String) : Bool :=
  value.toList.all fun c => ! Ascii.isControl c || c == '\t'

/-- Copies parameters to headers, up to one that no header can hold. -/
def copyParams (params : List Param) : List QueryHeaderSettings → Edited → Edited × Option Rejection
  | [], e => (e, none)
  | copy :: rest, e =>
    match Query.get? params copy.param with
    | none => copyParams params rest e
    | some value =>
      if isHeaderValue value then copyParams params rest (e.set copy.header value)
      else
        (e, some (.parseFailure .request
          ("query parameter '" ++ copy.param ++ "' is not a valid header value")))

/-- Copies query parameters to headers. -/
def copyQuery (p : Plugin) (e : Edited) : Edited × Option Rejection :=
  copyParams (Query.ofPath ((e.headers.get? Header.path).getD "")) p.queryHeaders e

/-- Tells the kind of device. -/
def tellDevice (p : Plugin) (e : Edited) : Edited :=
  match p.device with
  | some d => e.set d.header (Device.classify d.botKeywords e.headers).text
  | none => e

/-- Tells the trace, if the request has one. -/
def tellTrace (p : Plugin) (e : Edited) : Edited :=
  match p.traceHeader, Trace.ofHeaders? e.headers with
  | some header, some trace => e.set header trace.traceId
  | _, _ => e

/-- What the host knows about an exchange, by name. -/
abbrev Properties := List (String × String)

/-- Tells the place of the client. Where the host does not know it, what the client says is
removed. -/
def tellPlace (p : Plugin) (properties : Properties) (e : Edited) : Edited :=
  match p.geo with
  | none => e
  | some g =>
    match (properties.lookup g.property).filter (! ·.isEmpty) with
    | some place => e.set g.header place
    | none => if e.headers.contains g.header then e.change (e.headers.remove g.header) else e

/-- Edits the headers of an admitted request. A request that cannot be edited is refused, with the
edits up to there. -/
def editRequest (p : Plugin) (properties : Properties) (headers : HeaderSet) :
    Edited × Option Rejection :=
  match p.copyQuery (p.editPath (p.stripTokens ⟨headers, false⟩)) with
  | (e, some reason) => (e, some reason)
  | (e, none) => (p.tellPlace properties (p.tellTrace (p.tellDevice e)), none)

/-- Takes a request through all stages: its headers after them, and why it goes no further. -/
def routeRequest (p : Plugin) (properties : Properties) (now : Instant) (headers : HeaderSet) :
    Edited × Option Halt :=
  match p.checkRequest headers now with
  | .error halt => (⟨headers, false⟩, some halt)
  | .ok () =>
    let (e, reason) := p.editRequest properties headers
    (e, reason.map Halt.reject)

end Plugin

end ProxyFilter
