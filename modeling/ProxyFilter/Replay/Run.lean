import ProxyFilter.Config.Reading
import ProxyFilter.Plugin.Exchange
import ProxyFilter.Replay.Arguments
import ProxyFilter.Replay.Help

/-!
# Replays

`Replay.run` takes one request and one response through a plugin and reports every phase: what was
decided, the headers after it, and at last the body. The report ends where the exchange is stopped.
The files are read before, so that the report is a function of what they hold.
-/

namespace ProxyFilter.Replay

/-- What a replay leaves behind. -/
structure Outcome where
  exitCode : Nat
  /-- What is printed. -/
  report : String
  deriving DecidableEq, Repr

/-- The arguments or the settings make no sense. -/
def Outcome.refused : Outcome := ⟨2, ""⟩

/-- The help is printed. -/
def Outcome.help : Outcome := ⟨0, helpText⟩

/-- The version is printed. -/
def Outcome.version : Outcome := ⟨0, versionText⟩

/-! ## Lines of the report -/

/-- A response in one line. -/
def responseText (r : LocalResponse) : String :=
  "respond " ++ toString r.status.code ++ " " ++ Utf8.decodeLossy r.body

/-- A decision in one line. -/
def decisionText : Decision → String
  | .proceed => "continue"
  | .proceedModified => "continue (modified)"
  | .respond r => responseText r
  | .redirect status location => "redirect " ++ toString status.code ++ " " ++ location

/-- The report of a header phase. -/
def phaseText (phase : String) (decision : Decision) (headers : HeaderSet) : String :=
  phase ++ ": " ++ decisionText decision ++ "\n"
    ++ String.join (headers.entries.map fun h => "  " ++ h.name ++ ": " ++ h.value ++ "\n")

/-! ## Phases -/

/-- The request that is replayed. -/
def requestOf (o : Options) : HeaderSet :=
  let request := HeaderSet.ofPairs
    [(Header.method, o.method), (Header.path, o.path), (Header.authority, o.authority),
      (Header.scheme, "https")]
  o.headers.foldl (fun hs (name, value) => hs.add name value) request

/-- The headers of the response that is replayed. -/
def responseOf (o : Options) (body : Bytes) : HeaderSet :=
  .ofPairs
    [(Header.status, toString o.status), (Header.contentType, o.contentType),
      (Header.contentLength, toString body.length)]

/-- The exchange with what the host knows. -/
def exchangeOf (o : Options) : Exchange :=
  o.properties.foldl (fun x (name, value) => x.setProperty name value) Exchange.start

/-- A body in chunks of `size` octets, `fuel` at most; an empty body is one chunk. -/
def chunks (size : Nat) : Nat → Bytes → List Bytes
  | 0, b => [b]
  | fuel + 1, b =>
    match b.drop size with
    | [] => [b]
    | rest => b.take size :: chunks size fuel rest

/-- Takes the chunks of a body through the plugin: what they become together, or the response that
stops the exchange. -/
def passBody (p : Plugin) (x : Exchange) : List Bytes → Except LocalResponse Bytes
  | [] => .ok []
  | chunk :: rest =>
    match x.responseBody p chunk rest.isEmpty with
    | (_, .respond r) => .error r
    | (x, .proceed out) => (passBody p x rest).map fun more => out ++ more

/-- The report of the body. -/
def bodyText : Except LocalResponse Bytes → String
  | .error r => "response_body: " ++ responseText r ++ "\n"
  | .ok out =>
    "response_body: " ++ toString out.length ++ " bytes\n" ++ Utf8.decodeLossy out ++ "\n"

/-- Replays the response. -/
def replayResponse (o : Options) (p : Plugin) (x : Exchange) (body : Bytes) : String :=
  let (x, headers, decision) := x.responseHeaders p (responseOf o body)
  let report := phaseText "response_headers" decision headers
  if decision.stops then report
  else report ++ bodyText (passBody p x (chunks (max o.chunkSize 1) body.length body))

/-- Replays the request and, if it passes, the response. The body is nothing where its file cannot
be read. -/
def replay (o : Options) (p : Plugin) (now : Instant) (body : Option Bytes) : Outcome :=
  let (x, headers, decision) := (exchangeOf o).requestHeaders p now (requestOf o)
  let report := phaseText "request_headers" decision headers
  if decision.stops then ⟨0, report⟩
  else
    match body with
    | none => ⟨1, report⟩
    | some body => ⟨0, report ++ replayResponse o p x body⟩

/-- Replays with the settings of a file, which is nothing where it cannot be read. -/
def run (o : Options) (now : Instant) (settings body : Option Bytes) : Outcome :=
  match settings with
  | none => .refused
  | some blob =>
    match (Settings.parse blob).bind Plugin.build with
    | .ok p => replay o p now body
    | .error _ => .refused

end ProxyFilter.Replay
