import ProxyFilter.Digest.Sha256
import ProxyFilter.Digest.Md5

/-!
# Keyed digests

`Hmac.sign` digests a message under a secret key, as a digest of the key and an inner digest of the
key and the message. `Hmac.verify` accepts a signature exactly when it is the keyed digest.
-/

namespace ProxyFilter.Digest

/-- The digests a token may be signed with. -/
inductive Algorithm
  /-- SHA-256, the usual one. -/
  | sha256
  /-- MD5, for tokens of limited life only. -/
  | md5
  deriving DecidableEq, Repr

/-- The number of octets of a digest. -/
def Algorithm.size : Algorithm → Nat
  | .sha256 => 32
  | .md5 => 16

/-- The digest of a message. -/
def Algorithm.hash : Algorithm → Bytes → Bytes
  | .sha256 => Sha256.hash
  | .md5 => Md5.hash

namespace Hmac

/-- A key as one block of sixty-four octets: longer keys are digested first. -/
def blockKey (algorithm : Algorithm) (key : Bytes) : Bytes :=
  let key := if key.length > 64 then algorithm.hash key else key
  key ++ List.replicate (64 - key.length) 0

/-- The keyed digest of a message. -/
def sign (algorithm : Algorithm) (key message : Bytes) : Bytes :=
  let block := blockKey algorithm key
  let inner := algorithm.hash (block.map (· ^^^ 0x36) ++ message)
  algorithm.hash (block.map (· ^^^ 0x5c) ++ inner)

/-- The signature is the keyed digest of the message. -/
def verify (algorithm : Algorithm) (key message signature : Bytes) : Bool :=
  signature == sign algorithm key message

end Hmac

end ProxyFilter.Digest
