import ProxyFilter.Digest.Hmac
import ProxyFilter.Http.Address
import ProxyFilter.Text.Base64
import ProxyFilter.Text.Hex
import ProxyFilter.Time.Instant
import ProxyFilter.Token.Source

/-!
# Tokens signed with a shared secret

A token is a payload, a dot and a keyed digest of the payload (`SignedPayload.parse`). The payload
is a list of fields joined by a delimiter; the `Layout` says what each one means. The rules of a
scheme are checked in a fixed order (`SymmetricScheme.validate`): the form of the token, what it is
bound to, its signature, its age. So a token of another client is told to be bound to another
client, whatever its signature or age.
-/

namespace ProxyFilter

/-- How the parts of a token are written. -/
inductive TokenEncoding
  /-- Payload and signature in base64. -/
  | base64
  /-- The payload as it is, the signature in hexadecimal. -/
  | hex
  deriving DecidableEq, Repr

/-- A token taken apart. -/
structure SignedPayload where
  payload : String
  signature : Bytes
  deriving DecidableEq, Repr

namespace SignedPayload

/-- A token for a payload. -/
def sign (secret : Bytes) (payload : String) (algorithm : Digest.Algorithm)
    (encoding : TokenEncoding) : String :=
  let octets := Utf8.encode payload
  let signature := Digest.Hmac.sign algorithm secret octets
  match encoding with
  | .base64 =>
    Base64.encode .standard .required octets ++ "." ++ Base64.encode .standard .required signature
  | .hex => payload ++ "." ++ Hex.encode signature

/-- The octets of a segment in any of the usual spellings of base64. -/
def base64? (segment : String) : Option Bytes :=
  (Base64.decode? .standard .required segment).orElse fun _ =>
    (Base64.decode? .urlSafe .required segment).orElse fun _ =>
      Base64.decode? .urlSafe .none segment

/-- A value, or a fault in the form of a token. -/
def orMalformed {α : Type} (detail : String) : Option α → Except Rejection α
  | some a => .ok a
  | none => .error (.malformedToken detail)

/-- Takes a token apart at its last dot. -/
def parse (encoding : TokenEncoding) (raw : String) : Except Rejection SignedPayload := do
  let (payload, signature) ← orMalformed "missing separator" (Text.splitLast? '.' raw)
  if payload.isEmpty || signature.isEmpty then
    throw (.malformedToken "empty segment")
  match encoding with
  | .base64 =>
    let payload ← orMalformed "payload is not base64" (base64? payload)
    let signature ← orMalformed "signature is not base64" (base64? signature)
    let payload ← orMalformed "payload is not utf-8" (Utf8.decode? payload)
    return ⟨payload, signature⟩
  | .hex =>
    let signature ← orMalformed "signature is not hex" (Hex.decode? signature)
    return ⟨payload, signature⟩

/-- The fields of a payload, of which there must be `expected`. -/
def fields (token : SignedPayload) (delimiter : String) (expected : Nat) :
    Except Rejection (List String) :=
  let fields := Text.splitText delimiter token.payload
  if fields.length = expected then .ok fields
  else .error (.malformedToken "payload field count")

end SignedPayload

/-- What a field of a payload means. -/
inductive PayloadField
  /-- The address of the client. -/
  | clientIp
  /-- The second after which the token is no longer good. -/
  | expiresSeconds
  /-- The nanosecond after which the token is no longer good. -/
  | expiresNanos
  /-- The second at which the token was issued. -/
  | issuedSeconds
  /-- The nanosecond at which the token was issued. -/
  | issuedNanos
  /-- The method of the request. -/
  | method
  /-- The path of the request, without its query. -/
  | path
  /-- Something that is not checked. -/
  | unchecked
  deriving DecidableEq, Repr

namespace PayloadField

/-- The resolution of a timestamp, for fields that are one. -/
def resolution? : PayloadField → Option Resolution
  | expiresSeconds | issuedSeconds => some .seconds
  | expiresNanos | issuedNanos => some .nanos
  | _ => none

/-- The field is a timestamp. -/
def isTimestamp (f : PayloadField) : Bool := f.resolution?.isSome

/-- The field is a time of issue, which needs an allowed age. -/
def isIssueTime : PayloadField → Bool
  | issuedSeconds | issuedNanos => true
  | _ => false

end PayloadField

/-- A timestamp in a payload and the field it stands in. -/
structure Stamp where
  field : PayloadField
  resolution : Resolution
  value : Int
  deriving DecidableEq, Repr

/-- How tokens of one kind are carried, signed and read. -/
structure SymmetricScheme where
  source : TokenSource
  secret : Bytes
  algorithm : Digest.Algorithm
  encoding : TokenEncoding
  /-- The meaning of each field of a payload. -/
  layout : List PayloadField
  delimiter : String
  /-- The greatest age of a token with a time of issue. -/
  maxAge : Option Duration

namespace SymmetricScheme

/-- The timestamp in a field, if the field is one. -/
def stamp (entry : PayloadField × String) : Except Rejection (Option Stamp) :=
  match entry.1.resolution? with
  | none => .ok none
  | some resolution =>
    match Text.int64? entry.2 with
    | some value => .ok (some ⟨entry.1, resolution, value⟩)
    | none => .error (.malformedToken "timestamp is not an integer")

/-- The timestamps of a payload. -/
def stamps (entries : List (PayloadField × String)) : Except Rejection (List Stamp) :=
  (entries.mapM stamp).map fun found => found.filterMap id

/-- The name of a field whose value is not that of the request. -/
def mismatch? (headers : HeaderSet) (entry : PayloadField × String) : Option String :=
  match entry.1 with
  | .clientIp =>
    if Address.sameClient entry.2 (headers.clientIp?.getD "") then none else some "client_ip"
  | .method => if headers.get? Header.method = some entry.2 then none else some "method"
  | .path =>
    if (headers.get? Header.path).map (fun p => (Query.splitPath p).1) = some entry.2 then none
    else some "path"
  | _ => none

/-- The bindings of a payload are those of the request. -/
def checkBindings (headers : HeaderSet) (entries : List (PayloadField × String)) :
    Except Rejection Unit :=
  match entries.findSome? (mismatch? headers) with
  | some field => .error (.bindingMismatch field)
  | none => .ok ()

/-- The signature has the length of a digest, and is the keyed digest of the payload. -/
def signatureHolds (scheme : SymmetricScheme) (token : SignedPayload) : Bool :=
  token.signature.length == scheme.algorithm.size &&
    Digest.Hmac.verify scheme.algorithm scheme.secret (Utf8.encode token.payload) token.signature

/-- The rule by which a timestamp limits the life of a token. -/
def rule (scheme : SymmetricScheme) (field : PayloadField) : Freshness :=
  if field.isIssueTime then .issuedAt (scheme.maxAge.getD .zero) else .expiresAt

/-- A timestamp lets the token live. -/
def isFresh (scheme : SymmetricScheme) (now : Instant) (s : Stamp) : Bool :=
  (scheme.rule s.field).holds s.value s.resolution now

/-- Accepts a token, or says why it is refused. -/
def validate (scheme : SymmetricScheme) (raw : String) (headers : HeaderSet) (now : Instant) :
    Except Rejection Unit := do
  let token ← SignedPayload.parse scheme.encoding raw
  let fields ← token.fields scheme.delimiter scheme.layout.length
  let entries := scheme.layout.zip fields
  let stamps ← stamps entries
  checkBindings headers entries
  if ! scheme.signatureHolds token then throw .signatureInvalid
  if stamps.all (scheme.isFresh now) then return () else throw .expired

end SymmetricScheme

end ProxyFilter
