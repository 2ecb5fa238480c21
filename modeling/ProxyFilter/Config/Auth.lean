import ProxyFilter.Document.Basic
import ProxyFilter.Time.DurationText
import ProxyFilter.Token.Scheme

/-!
# Settings for tokens

`AuthSettings` is a token scheme as it is configured, of one of two kinds; `AuthSettings.build`
checks it and makes a `TokenScheme` of it. The settings of a scheme are read as a whole, so each
part of them must have a value even where it is not used.
-/

namespace ProxyFilter

/-! ## Sources -/

namespace TokenSource

/-- Reads a header source. -/
def header? (d : Document) : Option TokenSource := do
  let [name, scheme] ← d.fields? .named ["header", "scheme"] | none
  return header (← Field.required Document.text? name) (← Field.optional Document.text? scheme)

/-- Reads a cookie source. -/
def cookie? (d : Document) : Option TokenSource := do
  let [name] ← d.fields? .named ["cookie"] | none
  return cookie (← Field.required Document.text? name)

/-- Reads a query source. -/
def query? (d : Document) : Option TokenSource := do
  let [name] ← d.fields? .named ["query"] | none
  return query (← Field.required Document.text? name)

/-- Reads a source. Of the three forms the first that fits is taken. -/
def ofDocument? (d : Document) : Option TokenSource :=
  if ! d.isReadable then none
  else (header? d).orElse fun _ => (cookie? d).orElse fun _ => query? d

end TokenSource

/-! ## Settings -/

/-- The settings of a scheme with a shared secret. -/
structure SymmetricSettings where
  source : TokenSource
  secret : String
  algorithm : Digest.Algorithm
  encoding : TokenEncoding
  /-- The meaning of each field of a payload. -/
  layout : List PayloadField
  delimiter : String
  /-- The greatest age of a token in seconds. -/
  maxAgeSeconds : Option Nat
  /-- The greatest age of a token in words. -/
  maxAge : Option String
  /-- The token is removed from an accepted request. -/
  strip : Bool

/-- The settings of a scheme with a public key. -/
structure WebTokenSettings where
  source : TokenSource
  keyFile : String
  checkExpiry : Bool
  /-- The token is removed from an accepted request. -/
  strip : Bool

/-- The settings of a scheme. -/
inductive AuthSettings
  | symmetric (settings : SymmetricSettings)
  | web (settings : WebTokenSettings)

/-- The kinds of schemes. -/
inductive AuthKind
  | symmetric
  | web
  deriving DecidableEq, Repr

/-- The words for digest algorithms. -/
def Digest.Algorithm.words : List (String × Digest.Algorithm) :=
  [("sha256", .sha256), ("md5", .md5)]

/-- The words for encodings. -/
def TokenEncoding.words : List (String × TokenEncoding) := [("base64", .base64), ("hex", .hex)]

/-- The words for fields of a payload. -/
def PayloadField.words : List (String × PayloadField) :=
  [("client_ip", .clientIp), ("expires_s", .expiresSeconds), ("expires_ns", .expiresNanos),
    ("issued_s", .issuedSeconds), ("issued_ns", .issuedNanos), ("method", .method),
    ("path", .path), ("opaque", .unchecked)]

/-- The words for kinds of schemes. -/
def AuthKind.words : List (String × AuthKind) := [("hmac", .symmetric), ("jwt", .web)]

namespace SymmetricSettings

/-- The names of the fields, in order. -/
def names : List String :=
  ["source", "secret", "algorithm", "encoding", "fields", "delimiter", "max_age_secs", "max_age",
    "strip"]

/-- Reads the settings from a document. -/
def ofDocument? (d : Document) : Option SymmetricSettings := do
  let [source, secret, algorithm, encoding, layout, delimiter, maxAgeSeconds, maxAge, strip] ←
    d.fields? .namedOrListed names | none
  return {
    source := ← Field.required TokenSource.ofDocument? source
    secret := ← Field.required Document.text? secret
    algorithm := ← Field.orElse (Document.choice? Digest.Algorithm.words) .sha256 algorithm
    encoding := ← Field.orElse (Document.choice? TokenEncoding.words) .base64 encoding
    layout := ← Field.required (Document.listOf? (Document.choice? PayloadField.words)) layout
    delimiter := ← Field.orElse Document.text? "," delimiter
    maxAgeSeconds := ← Field.optional (Document.natBelow? UInt64.size) maxAgeSeconds
    maxAge := ← Field.optional Document.text? maxAge
    strip := ← Field.orElse Document.bool? false strip }

/-- The greatest age of a token, where one is set. -/
def age (s : SymmetricSettings) : Except ConfigError (Option Duration) :=
  match s.maxAge, s.maxAgeSeconds with
  | some _, some _ =>
    .error (.invalidValue "auth.max_age" "set max_age or max_age_secs, not both")
  | some text, none =>
    match Duration.parse text with
    | .ok d => .ok (some d)
    | .error fault => .error (.invalidValue "auth.max_age" fault.message)
  | none, seconds => .ok (seconds.map fun n => ⟨n, 0⟩)

/-- Checks the settings. A weak digest is only allowed where a timestamp limits its use. -/
def build (s : SymmetricSettings) : Except ConfigError SymmetricScheme := do
  if s.secret.isEmpty then throw (.missingField "auth.secret")
  if s.layout.isEmpty then throw (.missingField "auth.fields")
  if s.delimiter.isEmpty then
    throw (.invalidValue "auth.delimiter" "delimiter must not be empty")
  if s.algorithm = .md5 ∧ ! s.layout.any PayloadField.isTimestamp then
    throw (.invalidValue "auth.algorithm" "md5 requires an expires or issued field")
  let maxAge ← s.age
  if maxAge.isNone ∧ s.layout.any PayloadField.isIssueTime then
    throw (.missingField "auth.max_age_secs")
  return {
    source := s.source, secret := Utf8.encode s.secret, algorithm := s.algorithm,
    encoding := s.encoding, layout := s.layout, delimiter := s.delimiter, maxAge }

end SymmetricSettings

namespace WebTokenSettings

/-- The names of the fields, in order. -/
def names : List String := ["source", "public_key_pem", "validate_exp", "strip"]

/-- Reads the settings from a document. -/
def ofDocument? (d : Document) : Option WebTokenSettings := do
  let [source, keyFile, checkExpiry, strip] ← d.fields? .namedOrListed names | none
  return {
    source := ← Field.required TokenSource.ofDocument? source
    keyFile := ← Field.required Document.text? keyFile
    checkExpiry := ← Field.orElse Document.bool? false checkExpiry
    strip := ← Field.orElse Document.bool? false strip }

/-- Checks the settings and loads the key. -/
def build (s : WebTokenSettings) : Except ConfigError WebTokenScheme := do
  if (Text.trim s.keyFile).isEmpty then throw (.missingField "auth.public_key_pem")
  let key ← PublicKey.load (Utf8.encode s.keyFile)
  return { source := s.source, key, checkExpiry := s.checkExpiry }

end WebTokenSettings

namespace AuthSettings

/-- The kind of a scheme and the document with its other settings. In a list the kind comes
first. -/
def kind? (d : Document) : Option (AuthKind × Document) :=
  match d with
  | .list (.text word :: rest) => (AuthKind.words.lookup word).map fun kind => (kind, .list rest)
  | d => do
    let [kind] ← d.fields? .named ["kind"] | none
    let word ← Field.required Document.text? kind
    return (← AuthKind.words.lookup word, d)

/-- Reads the settings from a document. -/
def ofDocument? (d : Document) : Option AuthSettings := do
  if ! d.isReadable then none
  match ← kind? d with
  | (.symmetric, d) => return symmetric (← SymmetricSettings.ofDocument? d)
  | (.web, d) => return web (← WebTokenSettings.ofDocument? d)

/-- The token is removed from an accepted request. -/
def strip : AuthSettings → Bool
  | symmetric s => s.strip
  | web s => s.strip

/-- Checks the settings. -/
def build : AuthSettings → Except ConfigError TokenScheme
  | symmetric s => s.build.map TokenScheme.symmetric
  | web s => s.build.map TokenScheme.web

end AuthSettings

end ProxyFilter
