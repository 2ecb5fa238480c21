import ProxyFilter.Config.Error
import ProxyFilter.Digest.Sha256
import ProxyFilter.PublicKey.Armor

/-!
# RSA signatures

`RsaKey.ofDer?` reads a modulus and an exponent, written in the only way that DER allows and within
the limits for keys. `RsaKey.verifies` raises a signature to the exponent and compares the result
with the padded digest of the message (PKCS #1 version 1.5, SHA-256). A `PublicKey` is what a key
file holds, whether or not it is a usable key: no signature verifies under a key that is not.
-/

namespace ProxyFilter

/-! ## Arithmetic -/

/-- `base ^ exponent % modulus`, by squaring. -/
def powMod (base exponent modulus : Nat) : Nat :=
  if exponent = 0 then 1 % modulus
  else
    let half := powMod (base * base % modulus) (exponent / 2) modulus
    if exponent % 2 = 1 then base * half % modulus else half
termination_by exponent

/-- The last `count` octets of a number, the highest first. -/
def bigEndianOctets : Nat → Nat → Bytes
  | 0, _ => []
  | count + 1, n => bigEndianOctets count (n / 256) ++ [UInt8.ofNat n]

/-! ## Keys -/

/-- The modulus and the exponent of a public key. -/
structure RsaKey where
  modulus : Nat
  exponent : Nat
  deriving DecidableEq, Repr

namespace RsaKey

/-- Reads a length that takes no more octets than it needs, and no more than three. -/
def shortLength? : Bytes → Option (Nat × Bytes)
  | 0x81 :: a :: rest => if 128 ≤ a then some (a.toNat, rest) else none
  | 0x82 :: a :: b :: rest => if a ≠ 0 then some (a.toNat * 256 + b.toNat, rest) else none
  | a :: rest => if a < 128 then some (a.toNat, rest) else none
  | [] => none

/-- Reads a value of one type: its body, and what follows it. -/
def body? (type : UInt8) : Bytes → Option (Bytes × Bytes)
  | [] => none
  | t :: rest => do
    if t ≠ type then none
    let (size, rest) ← shortLength? rest
    if rest.length < size then none
    return (rest.take size, rest.drop size)

/-- The octets of a positive integer without the zero in front of a high bit, from the body of an
integer that has no other zeros in front. -/
def magnitude? : Bytes → Option Bytes
  | 0 :: a :: rest => if 128 ≤ a then some (a :: rest) else none
  | a :: rest => if a = 0 ∨ 128 ≤ a then none else some (a :: rest)
  | [] => none

/-- Reads a positive integer. -/
def positive? (b : Bytes) : Option (Bytes × Bytes) := do
  let (body, rest) ← body? 0x02 b
  return (← magnitude? body, rest)

/-- The limits for keys: a modulus of at least 256 octets and at most 8192 bits, an exponent from 3
up to `2 ^ 33 - 1`, and both odd. -/
def inLimits (modulus exponent : Bytes) : Bool :=
  let n := Asn1.bigEndian modulus
  let e := Asn1.bigEndian exponent
  256 ≤ modulus.length && n < 1 <<< 8192 && n % 2 == 1 && 3 ≤ e && e < 1 <<< 33 && e % 2 == 1

/-- Reads a key. -/
def ofDer? (der : Bytes) : Option RsaKey := do
  let (body, after) ← body? 0x30 der
  let (modulus, rest) ← positive? body
  let (exponent, rest) ← positive? rest
  if after.isEmpty && rest.isEmpty && inLimits modulus exponent then
    return ⟨Asn1.bigEndian modulus, Asn1.bigEndian exponent⟩
  else none

/-- The number of octets of the modulus. -/
def size (k : RsaKey) : Nat := (k.modulus.log2 + 8) / 8

/-! ## Signatures -/

/-- What stands before a SHA-256 digest in a signature. -/
def digestInfo : Bytes :=
  [0x30, 0x31, 0x30, 0x0d, 0x06, 0x09, 0x60, 0x86, 0x48, 0x01, 0x65, 0x03, 0x04, 0x02, 0x01, 0x05,
    0x00, 0x04, 0x20]

/-- The padded digest of a message, in `size` octets. -/
def paddedDigest (size : Nat) (message : Bytes) : Bytes :=
  let digest := digestInfo ++ Digest.Sha256.hash message
  [0, 1] ++ List.replicate (size - digest.length - 3) 0xff ++ 0 :: digest

/-- The signature is one of the message under this key. -/
def verifies (k : RsaKey) (message signature : Bytes) : Bool :=
  let s := Asn1.bigEndian signature
  signature.length == k.size && s < k.modulus
    && bigEndianOctets k.size (powMod s k.exponent k.modulus) == paddedDigest k.size message

end RsaKey

/-- What a key file holds for a key. -/
structure PublicKey where
  der : Bytes
  deriving DecidableEq, Repr

namespace PublicKey

/-- Loads the RSA key of a key file. -/
def load (file : Bytes) : Except ConfigError PublicKey :=
  match (Armor.parse? file).bind Armor.rsaKey? with
  | some der => .ok ⟨der⟩
  | none => .error .publicKey

/-- The signature is one of the message under this key, and the key is usable. -/
def verifies (k : PublicKey) (message signature : Bytes) : Bool :=
  match RsaKey.ofDer? k.der with
  | some key => key.verifies message signature
  | none => false

end PublicKey

end ProxyFilter
