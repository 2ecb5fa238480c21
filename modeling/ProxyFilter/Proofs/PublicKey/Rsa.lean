import Mathlib.Algebra.Group.Nat.Defs
import ProxyFilter.PublicKey.Rsa

/-!
# What an RSA signature is

`RsaKey.IsSignature` says what it is for a signature to be one of a message: the power of it that
the key asks for is the padded digest. `RsaKey.verifies_iff` and `PublicKey.verifies_iff` say that
this is what is checked; `powMod_eq` is the law of the power.
-/

namespace ProxyFilter

/-- Powers by squaring are powers. By induction on the exponent, which is halved. -/
theorem powMod_eq (base exponent modulus : Nat) :
    powMod base exponent modulus = base ^ exponent % modulus := by
  induction exponent using Nat.strongRecOn generalizing base with
  | ind exponent ih =>
    rw [powMod]
    by_cases hzero : exponent = 0
    · simp [hzero]
    · have hhalf : powMod (base * base % modulus) (exponent / 2) modulus =
          base ^ (2 * (exponent / 2)) % modulus := by
        rw [ih _ (by omega), ← Nat.pow_mod, ← Nat.pow_two, Nat.pow_mul]
      simp only [if_neg hzero, hhalf]
      by_cases hodd : exponent % 2 = 1
      · have hparts : (2 * (exponent / 2)).succ = exponent := by omega
        rw [if_pos hodd, Nat.mul_mod_mod, ← Nat.pow_succ', hparts]
      · have hparts : 2 * (exponent / 2) = exponent := by omega
        rw [if_neg hodd, hparts]

/-- A number below the modulus, in as many octets as the modulus takes, of which the power is the
padded digest of the message. -/
def RsaKey.IsSignature (k : RsaKey) (message signature : Bytes) : Prop :=
  signature.length = k.size ∧ Asn1.bigEndian signature < k.modulus ∧
    bigEndianOctets k.size (Asn1.bigEndian signature ^ k.exponent % k.modulus) =
      paddedDigest k.size message

/-- A signature that verifies is one of the message. -/
theorem RsaKey.verifies_iff {k : RsaKey} {message signature : Bytes} :
    k.verifies message signature = true ↔ k.IsSignature message signature := by
  simp [verifies, IsSignature, powMod_eq, and_assoc]

/-- The key is usable, and the signature is one of the message under it. -/
def PublicKey.IsSignature (k : PublicKey) (message signature : Bytes) : Prop :=
  ∃ key, RsaKey.ofDer? k.der = some key ∧ key.IsSignature message signature

/-- A signature that verifies under a key is one of the message under a usable key. -/
theorem PublicKey.verifies_iff {k : PublicKey} {message signature : Bytes} :
    k.verifies message signature = true ↔ k.IsSignature message signature := by
  unfold verifies IsSignature
  cases RsaKey.ofDer? k.der with
  | none => simp
  | some key => simp [RsaKey.verifies_iff]

end ProxyFilter
