import ProxyFilter.Proofs.Text.Base64
import ProxyFilter.Proofs.Text.Hex
import ProxyFilter.Proofs.Text.Split
import ProxyFilter.Proofs.Text.Utf8
import ProxyFilter.Proofs.Token.Symmetric

/-!
# Tokens that are taken apart as they were put together

A segment of a token may have one of three spellings of base64 (`SignedPayload.IsSpelling`), which
are tried in turn. A segment that has one of them is decoded to its octets, whichever spelling is
found to fit first (`SignedPayload.IsSpelling.base64?_encode`). No segment and no hexadecimal text
has a dot, so the last dot of a token is the one that was put between its parts, whatever the
payload: tokens in base64 (`SignedPayload.parse_base64`) and with a signature in hexadecimal
(`SignedPayload.parse_hex`) are taken apart as they were put together, and so are those that are
signed (`SignedPayload.parse_sign`).
-/

namespace ProxyFilter.SignedPayload

open Base64 (Alphabet Padding)

variable {a a' : Alphabet} {p p' : Padding} {payload : String} {signature : Bytes}

/-! ## Spellings -/

/-- A spelling of base64 that a segment of a token may have. -/
inductive IsSpelling : Alphabet → Padding → Prop
  /-- The alphabet with `+` and `/`, filled up. -/
  | standard : IsSpelling .standard .required
  /-- The alphabet with `-` and `_`, filled up. -/
  | urlSafe : IsSpelling .urlSafe .required
  /-- The alphabet with `-` and `_`, not filled up. -/
  | unpadded : IsSpelling .urlSafe .none

namespace IsSpelling

/-- The characters of a spelling stand for one value each. -/
theorem isFaithful (h : IsSpelling a p) : a.IsFaithful := by
  cases h with
  | standard => exact Alphabet.isFaithful_standard
  | urlSafe | unpadded => exact Alphabet.isFaithful_urlSafe

/-- No character has different values in two spellings. -/
theorem agree (h : IsSpelling a p) (h' : IsSpelling a' p') : a.Agree a' := by
  cases h with
  | standard =>
    cases h' with
    | standard => exact .refl _
    | urlSafe | unpadded => exact Alphabet.agree_standard_urlSafe
  | urlSafe | unpadded =>
    cases h' with
    | standard => exact Alphabet.agree_standard_urlSafe.symm
    | urlSafe | unpadded => exact .refl _

/-- A text in one of the spellings is decoded as in that spelling, also where another one that it
has too is tried before. -/
theorem base64?_of_decode? (h : IsSpelling a p) {s : String} {b : Bytes}
    (hs : Base64.decode? a p s = some b) : base64? s = some b := by
  have hsame {a' : Alphabet} {p' : Padding} {b' : Bytes} (h' : IsSpelling a' p')
      (hs' : Base64.decode? a' p' s = some b') : b' = b :=
    Base64.decode?_unique h'.isFaithful h.isFaithful (h'.agree h) hs' hs
  rw [base64?]
  cases hstandard : Base64.decode? .standard .required s with
  | some b' =>
    rw [hsame .standard hstandard]
    rfl
  | none =>
    cases hurlSafe : Base64.decode? .urlSafe .required s with
    | some b' =>
      rw [hsame .urlSafe hurlSafe]
      rfl
    | none =>
      cases h with
      | standard => cases hstandard.symm.trans hs
      | urlSafe => cases hurlSafe.symm.trans hs
      | unpadded => exact hs

/-- A segment is decoded to its octets. -/
theorem base64?_encode (h : IsSpelling a p) (b : Bytes) :
    base64? (Base64.encode a p b) = some b :=
  h.base64?_of_decode? (Base64.decode?_encode h.isFaithful p b)

/-- A segment is made of characters at which nothing is cut or trimmed. -/
theorem forall_mem_encode (h : IsSpelling a p) (b : Bytes) :
    ∀ c ∈ (Base64.encode a p b).toList, Text.isBlank c = false ∧ c ≠ ';' ∧ c ≠ '.' := by
  cases h with
  | standard | urlSafe | unpadded => exact Base64.forall_mem_encode (by decide) (by decide) _ b

end IsSpelling

/-! ## Tokens -/

/-- Where no dot follows, a token is cut at the dot between its parts. -/
theorem splitLast?_join {first second : String} (h : '.' ∉ second.toList) :
    Text.splitLast? '.' (first ++ "." ++ second) = some (first, second) :=
  Text.splitLast?_eq_some.2 ⟨h, by simp⟩

/-- A payload that is not empty has octets. -/
theorem encode_ne_nil (h : payload ≠ "") : Utf8.encode payload ≠ [] := by
  intro hnil
  have hread := Utf8.decode?_encode payload
  rw [hnil] at hread
  exact h (Option.some.inj hread).symm

/-- **A token in base64 is taken apart as it was put together, whatever the spelling of each of its
segments.** -/
theorem parse_base64 (h : IsSpelling a p) (h' : IsSpelling a' p') (hpayload : payload ≠ "")
    (hsignature : signature ≠ []) :
    parse .base64 (Base64.encode a p (Utf8.encode payload) ++ "." ++
      Base64.encode a' p' signature) = .ok ⟨payload, signature⟩ := by
  have hdot : '.' ∉ (Base64.encode a' p' signature).toList := fun hdot =>
    (h'.forall_mem_encode _ _ hdot).2.2 rfl
  have hfirst : (Base64.encode a p (Utf8.encode payload)).isEmpty = false := by
    simp [Base64.encode_eq_empty, encode_ne_nil hpayload]
  have hsecond : (Base64.encode a' p' signature).isEmpty = false := by
    simp [Base64.encode_eq_empty, hsignature]
  simp only [parse, splitLast?_join hdot, orMalformed, h.base64?_encode, h'.base64?_encode,
    Utf8.decode?_encode, hfirst, hsecond, bind, Except.bind, pure, Except.pure, Bool.or_self,
    Bool.false_eq_true, if_false]

/-- **A token with its signature in hexadecimal is taken apart as it was put together, in any letter
case of the digits and also where the payload has dots.** -/
theorem parse_hex {digits : String} (hdigits : Ascii.lower digits = Hex.encode signature)
    (hpayload : payload ≠ "") (hsignature : signature ≠ []) :
    parse .hex (payload ++ "." ++ digits) = .ok ⟨payload, signature⟩ := by
  have hdot : '.' ∉ digits.toList := fun hdot =>
    absurd (Hex.isHexDigit_of_lower hdigits hdot) (by decide)
  have hfirst : payload.isEmpty = false := by simp [hpayload]
  have hsecond : digits.isEmpty = false := by
    simp only [String.isEmpty_eq_false_iff]
    rintro rfl
    exact hsignature (Hex.encode_eq_empty.1 hdigits.symm)
  simp only [parse, splitLast?_join hdot, orMalformed, Hex.decode?_of_lower hdigits, hfirst,
    hsecond, bind, Except.bind, pure, Except.pure, Bool.or_self, Bool.false_eq_true, if_false]

/-- A keyed digest has octets. -/
theorem hmac_ne_nil (algorithm : Digest.Algorithm) (secret message : Bytes) :
    Digest.Hmac.sign algorithm secret message ≠ [] := by
  intro hnil
  have hlength := Digest.Hmac.length_sign algorithm secret message
  rw [hnil] at hlength
  cases algorithm <;> cases hlength

/-- **A token that is signed is taken apart into its payload and the keyed digest of it.** -/
theorem parse_sign (hpayload : payload ≠ "") (secret : Bytes) (algorithm : Digest.Algorithm)
    (encoding : TokenEncoding) :
    parse encoding (sign secret payload algorithm encoding) =
      .ok ⟨payload, Digest.Hmac.sign algorithm secret (Utf8.encode payload)⟩ := by
  have hsignature := hmac_ne_nil algorithm secret (Utf8.encode payload)
  cases encoding with
  | base64 => exact parse_base64 .standard .standard hpayload hsignature
  | hex => exact parse_hex (Hex.lower_encode _) hpayload hsignature

/-- **Tokens are taken apart as they were put together: those in base64, with each segment in any of
the three spellings, those with a signature in hexadecimal, in any letter case, and so those that
are signed, whose signature is then found to be right.** -/
theorem parse_written (hpayload : payload ≠ "") :
    (∀ a p a' p' signature, IsSpelling a p → IsSpelling a' p' → signature ≠ [] →
      parse .base64 (Base64.encode a p (Utf8.encode payload) ++ "." ++
        Base64.encode a' p' signature) = .ok ⟨payload, signature⟩) ∧
    (∀ digits signature, Ascii.lower digits = Hex.encode signature → signature ≠ [] →
      parse .hex (payload ++ "." ++ digits) = .ok ⟨payload, signature⟩) ∧
    (∀ secret algorithm encoding, ∃ signature,
      parse encoding (sign secret payload algorithm encoding) = .ok ⟨payload, signature⟩ ∧
        Digest.Hmac.verify algorithm secret (Utf8.encode payload) signature = true) := by
  refine ⟨fun a p a' p' signature h h' => parse_base64 h h' hpayload,
    fun digits signature hdigits => parse_hex hdigits hpayload, ?_⟩
  intro secret algorithm encoding
  refine ⟨_, parse_sign hpayload secret algorithm encoding, ?_⟩
  simp only [Digest.Hmac.verify, beq_self_eq_true]

/-- A payload with dots: its segments in two spellings, and its signature in digits of either letter
case. -/
theorem parse_written_dotted :
    "10.1.2.3,7" ≠ "" ∧
      parse .base64 "MTAuMS4yLjMsNw==.-_8" = .ok ⟨"10.1.2.3,7", [0xfb, 0xff]⟩ ∧
      parse .hex "10.1.2.3,7.FbfF" = .ok ⟨"10.1.2.3,7", [0xfb, 0xff]⟩ := by
  have hpayload : "10.1.2.3,7" ≠ "" := by decide
  have hbase64 : "MTAuMS4yLjMsNw==.-_8" =
      Base64.encode .standard .required (Utf8.encode "10.1.2.3,7") ++ "." ++
        Base64.encode .urlSafe .none [0xfb, 0xff] := by
    decide +kernel
  have hhex : "10.1.2.3,7.FbfF" = "10.1.2.3,7" ++ "." ++ "FbfF" := by decide +kernel
  have hdigits : Ascii.lower "FbfF" = Hex.encode [0xfb, 0xff] := by decide +kernel
  refine ⟨hpayload, ?_, ?_⟩
  · rw [hbase64]
    exact (parse_written hpayload).1 _ _ _ _ _ .standard .unpadded (by decide)
  · rw [hhex]
    exact (parse_written hpayload).2.1 _ _ hdigits (by decide)

end ProxyFilter.SignedPayload
