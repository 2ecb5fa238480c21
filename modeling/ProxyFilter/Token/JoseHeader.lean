import ProxyFilter.Document.Basic

/-!
# Headers of web tokens

The header of a web token may hold more than the algorithm: names of keys, certificates, a key.
`JoseHeader.algorithm?` reads the algorithm of a header in which every field with a standard meaning
occurs at most once and has a value of its type, and `JoseHeader.isClaimSet` asks the same of the
claims. Other fields are not looked at.
-/

namespace ProxyFilter.JoseHeader

/-- A field that is absent, null or read. -/
def allows {α : Type} (read : Document → Option α) (field : Field) : Bool :=
  (field.optional read).isSome

/-- A list of texts. -/
def texts? (d : Document) : Option (List String) := d.listOf? Document.text?

/-- Some fields of a record occur at most once and satisfy a test. -/
def fieldsSatisfy (test : Field → Bool) (names : List String) (d : Document) : Bool :=
  match d.fields? .named names with
  | some fields => fields.all test
  | none => false

/-! ## Keys in headers -/

/-- The algorithms that a key may be for. -/
def keyAlgorithms : List String :=
  ["HS256", "HS384", "HS512", "ES256", "ES384", "RS256", "RS384", "RS512", "PS256", "PS384",
    "PS512", "EdDSA", "RSA1_5", "RSA-OAEP", "RSA-OAEP-256"]

/-- The named curves. -/
def curves : List String := ["P-256", "P-384", "P-521", "Ed25519"]

/-- A field that holds one of some words. -/
def isWord (words : List String) (field : Field) : Bool :=
  (field.required (Document.choice? (words.map fun w => (w, w)))).isSome

/-- A field that holds a text. -/
def isText (field : Field) : Bool := (field.required Document.text?).isSome

/-- The fields that every key may have. -/
def hasCommonFields (d : Document) : Bool :=
  fieldsSatisfy (allows Document.text?) ["use", "kid", "x5u", "x5t", "x5t#S256"] d
    && fieldsSatisfy (allows texts?) ["key_ops", "x5c"] d
    && fieldsSatisfy (allows (Document.choice? (keyAlgorithms.map fun w => (w, w)))) ["alg"] d

/-- A key on an elliptic curve. -/
def isCurveKey (d : Document) : Bool :=
  fieldsSatisfy (isWord ["EC"]) ["kty"] d && fieldsSatisfy (isWord curves) ["crv"] d
    && fieldsSatisfy isText ["x", "y"] d

/-- An RSA key. -/
def isRsaKey (d : Document) : Bool :=
  fieldsSatisfy (isWord ["RSA"]) ["kty"] d && fieldsSatisfy isText ["n", "e"] d

/-- A secret key. -/
def isSecretKey (d : Document) : Bool :=
  fieldsSatisfy (isWord ["oct"]) ["kty"] d && fieldsSatisfy isText ["k"] d

/-- A key pair of octets. -/
def isOctetKey (d : Document) : Bool :=
  fieldsSatisfy (isWord ["OKP"]) ["kty"] d && fieldsSatisfy (isWord curves) ["crv"] d
    && fieldsSatisfy isText ["x"] d

/-- A key of one of the four kinds. -/
def isKey (d : Document) : Bool :=
  d.isReadable && hasCommonFields d
    && (isCurveKey d || isRsaKey d || isSecretKey d || isOctetKey d)

/-- A key, as something that can be read. -/
def key? (d : Document) : Option Unit := if isKey d then some () else none

/-! ## Headers and claims -/

/-- The algorithms that a header may name. -/
def signatureAlgorithms : List String :=
  ["HS256", "HS384", "HS512", "ES256", "ES384", "RS256", "RS384", "RS512", "PS256", "PS384",
    "PS512", "EdDSA"]

/-- Every field with a standard meaning besides the algorithm has a value of its type. -/
def isWellTyped (header : Document) : Bool :=
  fieldsSatisfy (allows Document.text?)
      ["typ", "cty", "jku", "kid", "x5u", "x5t", "x5t#S256"] header
    && fieldsSatisfy (allows texts?) ["x5c"] header
    && fieldsSatisfy (allows key?) ["jwk"] header

/-- The algorithm that a well typed header names. -/
def algorithm? (header : Document) : Option String := do
  let [field] ← header.fields? .named ["alg"] | none
  let named ← field.required (Document.choice? (signatureAlgorithms.map fun w => (w, w)))
  if isWellTyped header then return named else none

/-- A list or record with something in it. -/
def holdsValues : Document → Bool
  | .list items => ! items.isEmpty
  | .record fields => ! fields.isEmpty
  | _ => false

/-- A list or record. -/
def isCompound : Document → Bool
  | .list _ | .record _ => true
  | _ => false

/-- The claims with a standard meaning occur at most once, and the times and the subject are not
compound. An empty list or record passes for a time. -/
def isClaimSet (claims : Document) : Bool :=
  fieldsSatisfy (fun f => ! f.any holdsValues) ["exp", "nbf"] claims
    && fieldsSatisfy (fun f => ! f.any isCompound) ["sub"] claims
    && fieldsSatisfy (fun _ => true) ["iss", "aud"] claims

end ProxyFilter.JoseHeader
