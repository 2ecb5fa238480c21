import ProxyFilter.Proofs.Json.Numbers
import ProxyFilter.Proofs.PublicKey.Rsa
import ProxyFilter.Proofs.Text.Base64
import ProxyFilter.Proofs.Text.Split
import ProxyFilter.Proofs.Token.Malformed
import ProxyFilter.Token.WebToken

/-!
# What an accepted web token is

A web token is read twice: `WebToken.parse` takes it apart forgivingly, and `StrictToken.decode`
checks it. `WebToken.verify_sound` says that the two read the same: what is accepted is three
segments, signed as the strict reader cuts them, and its claims are those of the forgiving one.
What a segment is read as depends on the reader only where it ends in `=` signs
(`WebToken.segmentObject_eq`), and where it is cut not at all (`WebToken.segments?_eq_some`).
-/

namespace ProxyFilter

/-! ## Segments -/

namespace WebToken

/-- A text that is three parts without dots, none of them empty, and two dots between them. -/
structure IsSegments (raw header payload signature : String) : Prop where
  joined : raw = header ++ "." ++ payload ++ "." ++ signature
  header : header ≠ "" ∧ '.' ∉ header.toList
  payload : payload ≠ "" ∧ '.' ∉ payload.toList
  signature : signature ≠ "" ∧ '.' ∉ signature.toList

/-- A text is cut into three segments that make it up. -/
theorem segments?_eq_some {raw header payload signature : String} :
    segments? raw = some (header, payload, signature) ↔
      IsSegments raw header payload signature := by
  constructor
  · intro h
    simp only [segments?] at h
    split at h
    · next a b c hsplit =>
      split at h
      · cases h
      · next hempty =>
        cases h
        obtain ⟨hheader, hpayload, hsignature, hraw⟩ := Text.splitAll_eq_three.1 hsplit
        simp only [String.isEmpty_iff, not_or] at hempty
        exact {
          joined := String.toList_inj.1 (by simp [hraw])
          header := ⟨hempty.1, hheader⟩
          payload := ⟨hempty.2.1, hpayload⟩
          signature := ⟨hempty.2.2, hsignature⟩ }
    · cases h
  · rintro ⟨rfl, ⟨hheader, hheader'⟩, ⟨hpayload, hpayload'⟩, hsignature, hsignature'⟩
    have hsplit : Text.splitAll '.' (header ++ "." ++ payload ++ "." ++ signature) =
        [header, payload, signature] :=
      Text.splitAll_eq_three.2 ⟨hheader', hpayload', hsignature', by simp⟩
    simp [segments?, hsplit, hheader, hpayload, hsignature]

/-- The dots of a text in three segments are where its last two dots are. -/
theorem IsSegments.splitLast? {raw header payload signature : String}
    (h : IsSegments raw header payload signature) :
    Text.splitLast? '.' raw = some (header ++ "." ++ payload, signature) ∧
      Text.splitLast? '.' (header ++ "." ++ payload) = some (header, payload) := by
  obtain ⟨rfl, -, ⟨-, hpayload⟩, -, hsignature⟩ := h
  exact ⟨Text.splitLast?_eq_some.2 ⟨hsignature, by simp⟩,
    Text.splitLast?_eq_some.2 ⟨hpayload, by simp⟩⟩

/-- A segment without an `=` sign has none to be dropped. -/
theorem dropFill_eq_self {segment : String} (h : '=' ∉ segment.toList) :
    dropFill segment = segment := by
  have hlast : segment.toList.reverse.dropWhile (· == '=') = segment.toList.reverse := by
    cases hcs : segment.toList.reverse with
    | nil => rfl
    | cons c cs =>
      have hc : c ∈ segment.toList := List.mem_reverse.1 (hcs ▸ List.mem_cons_self)
      have hne : (c == '=') = false := beq_eq_false_iff_ne.2 fun heq => h (heq ▸ hc)
      rw [List.dropWhile_cons, hne]
      rfl
  rw [dropFill, Text.dropEndWhile, hlast, List.reverse_reverse, String.ofList_toList]

/-- What the strict reader reads in a segment, the forgiving one reads too. -/
theorem segmentObject_eq {segment : String} {octets : Bytes} {v w : Json}
    (hoctets : StrictToken.segmentOctets? segment = some octets) (hv : Json.parse? octets = some v)
    (h : segmentObject segment = .ok w) : w = v := by
  have hfill : dropFill segment = segment := dropFill_eq_self (Base64.not_mem_of_decode? hoctets)
  simp only [segmentObject, hfill, hoctets, hv] at h
  split at h
  · next heq => cases heq
  · next heq =>
    cases heq
    cases h
    rfl
  · cases h

/-- A token that can be taken apart is three segments, of which the first two are objects. -/
theorem parse_eq_ok {raw : String} {token : WebToken} : parse raw = .ok token ↔
    ∃ header payload, IsSegments raw header payload token.signature ∧
      segmentObject header = .ok token.header ∧ segmentObject payload = .ok token.payload := by
  constructor
  · intro h
    simp only [parse] at h
    split at h
    · cases h
    · next header payload signature hsegments =>
      obtain ⟨v, hheader, h⟩ := Except.bind_eq_ok h
      obtain ⟨w, hpayload, h⟩ := Except.bind_eq_ok h
      cases h
      exact ⟨header, payload, segments?_eq_some.1 hsegments, hheader, hpayload⟩
  · rintro ⟨header, payload, hraw, hheader, hpayload⟩
    simp only [parse, segments?_eq_some.2 hraw, hheader, hpayload, bind, Except.bind]
    rfl

end WebToken

/-! ## The strict reader -/

namespace StrictToken

/-- A value that is read is there. -/
theorem orFault_eq_ok {α : Type} {fault : Fault} {x : Option α} {a : α} :
    orFault fault x = .ok a ↔ x = some a := by
  cases x <;> simp [orFault]

/-- A signature that is accepted is one of the message. -/
theorem checkSignature_eq_ok {key : PublicKey} {message : Bytes} {segment : String} :
    checkSignature key message segment = .ok () ↔
      ∃ octets, segmentOctets? segment = some octets ∧ key.IsSignature message octets := by
  constructor
  · intro h
    obtain ⟨octets, hoctets, h⟩ := Except.bind_eq_ok h
    refine ⟨octets, orFault_eq_ok.1 hoctets, ?_⟩
    split at h
    · next hverifies => exact PublicKey.verifies_iff.1 hverifies
    · cases h
  · rintro ⟨octets, hoctets, hsigned⟩
    simp only [checkSignature, orFault_eq_ok.2 hoctets, PublicKey.verifies_iff.2 hsigned, bind,
      Except.bind, if_true]
    rfl

/-- Claims that are read are the value of the segment. -/
theorem readClaims_eq_ok {segment : String} {claims : Json} (h : readClaims segment = .ok claims) :
    ∃ octets, segmentOctets? segment = some octets ∧ Json.parse? octets = some claims := by
  obtain ⟨octets, hoctets, h⟩ := Except.bind_eq_ok h
  obtain ⟨claims', hclaims, h⟩ := Except.bind_eq_ok h
  obtain ⟨document, -, h⟩ := Except.bind_eq_ok h
  refine ⟨octets, orFault_eq_ok.1 hoctets, ?_⟩
  split at h
  · cases h
    exact orFault_eq_ok.1 hclaims
  · cases h

/-- The strict reader accepts a token whose header it accepts and which is signed as it stands,
and gives the claims in it. -/
theorem decode_eq_ok {key : PublicKey} {raw header payload signature : String} {claims : Json}
    (hraw : WebToken.IsSegments raw header payload signature) : decode key raw = .ok claims ↔
      checkHeader header = .ok () ∧
        checkSignature key (Utf8.encode (header ++ "." ++ payload)) signature = .ok () ∧
        readClaims payload = .ok claims := by
  obtain ⟨hlast, hfirst⟩ := hraw.splitLast?
  constructor
  · intro h
    obtain ⟨⟨message, signature'⟩, hmessage, h⟩ := Except.bind_eq_ok h
    cases hlast.symm.trans (orFault_eq_ok.1 hmessage)
    obtain ⟨⟨header', payload'⟩, hparts, h⟩ := Except.bind_eq_ok h
    cases hfirst.symm.trans (orFault_eq_ok.1 hparts)
    obtain ⟨⟨⟩, hheader, h⟩ := Except.bind_eq_ok h
    obtain ⟨⟨⟩, hsignature, h⟩ := Except.bind_eq_ok h
    exact ⟨hheader, hsignature, h⟩
  · rintro ⟨hheader, hsignature, hclaims⟩
    simp only [decode, orFault_eq_ok.2 hlast, orFault_eq_ok.2 hfirst, hheader, hsignature, hclaims,
      bind, Except.bind]

end StrictToken

/-! ## Acceptance -/

namespace WebToken

/-- The last segment of a text is a signature, under a usable key, of all that stands before the
last dot. -/
def SignedBy (key : PublicKey) (raw : String) : Prop :=
  ∃ message signature octets, raw = message ++ "." ++ signature ∧ '.' ∉ signature.toList ∧
    StrictToken.segmentOctets? signature = some octets ∧
    key.IsSignature (Utf8.encode message) octets

/-- The claims have an integer of sixty-four bits for a time of expiry, which is not past. -/
def Unexpired (claims : Json) (now : Instant) : Prop :=
  ∃ expiry n, claims.get? "exp" = some expiry ∧ expiry.int64? = some n ∧
    (Text.int64Min ≤ n ∧ n ≤ Text.int64Max) ∧ now.seconds ≤ n

/-- What the strict reader and the forgiving one have both accepted. -/
structure Accepted (key : PublicKey) (raw : String) (token : WebToken) (claims : Json) : Prop where
  parse : WebToken.parse raw = .ok token
  algorithm : token.algorithm? = some "RS256"
  signed : SignedBy key raw
  segments : ∃ header payload, IsSegments raw header payload token.signature
  claims : claims = token.payload

/-- A token that is accepted by the strict reader, and taken apart before. -/
theorem accepted_of_decode {key : PublicKey} {raw : String} {token : WebToken} {claims : Json}
    (hparse : parse raw = .ok token) (halgorithm : token.algorithm? = some "RS256")
    (h : StrictToken.decode key raw = .ok claims) :
    Accepted key raw token claims ∧ ∃ octets, Json.parse? octets = some claims := by
  obtain ⟨header, payload, hraw, -, hpayload⟩ := parse_eq_ok.1 hparse
  obtain ⟨-, hsignature, hclaims⟩ := (StrictToken.decode_eq_ok hraw).1 h
  obtain ⟨octets, hoctets, hsigned⟩ := StrictToken.checkSignature_eq_ok.1 hsignature
  obtain ⟨octets', hoctets', hvalue⟩ := StrictToken.readClaims_eq_ok hclaims
  have heq := segmentObject_eq hoctets' hvalue hpayload
  exact ⟨{
    parse := hparse
    algorithm := halgorithm
    signed := ⟨_, _, octets, hraw.joined, hraw.signature.2, hoctets, hsigned⟩
    segments := ⟨header, payload, hraw⟩
    claims := heq.symm }, octets', hvalue⟩

/-- Claims that are not expired have a time of expiry that is not past. -/
theorem unexpired_of_isUnexpired {claims : Json} {now : Instant} {octets : Bytes}
    (hclaims : Json.parse? octets = some claims) (h : isUnexpired claims now = true) :
    Unexpired claims now := by
  unfold isUnexpired at h
  split at h
  · next n hn =>
    obtain ⟨expiry, hexpiry, hn⟩ := Option.bind_eq_some_iff.1 hn
    exact ⟨expiry, n, hexpiry, hn, Json.int64?_range hclaims hexpiry hn, of_decide_eq_true h⟩
  · cases h

/-- A segment is an object, or the token is malformed. -/
theorem malformedOnly_segmentObject (segment : String) : MalformedOnly (segmentObject segment) := by
  simp only [segmentObject]
  split
  · exact .error _
  · split
    · exact .error _
    · exact .ok _
    · exact .error _

/-- A token is taken apart, or is malformed. -/
theorem malformedOnly_parse (raw : String) : MalformedOnly (parse raw) := by
  simp only [parse]
  split
  · exact .error _
  · exact .bind (malformedOnly_segmentObject _) fun _ =>
      .bind (malformedOnly_segmentObject _) fun _ => .ok _

/-- What becomes of a token that is taken apart. -/
theorem verify_eq {raw : String} {token : WebToken} (hparse : parse raw = .ok token)
    (key : PublicKey) (checkExpiry : Bool) (now : Instant) : verify raw key checkExpiry now =
      if token.algorithm? = some "RS256" then
        match StrictToken.decode key raw with
        | .error fault => .error (rejectionOf fault)
        | .ok claims =>
          if (checkExpiry && ! isUnexpired claims now) = true then .error .expired else .ok claims
      else .error .signatureInvalid := by
  by_cases halgorithm : token.algorithm? = some "RS256"
  · have hguard : ¬ token.algorithm? ≠ some StrictToken.algorithm := not_not_intro halgorithm
    rw [if_pos halgorithm]
    simp only [verify, hparse, bind, Except.bind, if_neg hguard]
    cases StrictToken.decode key raw with
    | error fault => rfl
    | ok claims =>
      simp only [Except.mapError]
      split <;> rfl
  · have hguard : token.algorithm? ≠ some StrictToken.algorithm := halgorithm
    rw [if_neg halgorithm]
    simp only [verify, hparse, bind, Except.bind, if_pos hguard]
    rfl

/-- **A token that is accepted is three segments, the last of them a signature of all that stands
before it; its header names RS256, its claims are those that taking it apart gives, and where it is
asked for they have a time of expiry that is not past. Only a signed token is told to be
expired.** -/
theorem verify_sound (raw : String) (key : PublicKey) (checkExpiry : Bool) (now : Instant) :
    (∀ claims, verify raw key checkExpiry now = .ok claims →
      ∃ token, Accepted key raw token claims ∧ (checkExpiry = true → Unexpired claims now)) ∧
    (verify raw key checkExpiry now = .error .expired → SignedBy key raw) := by
  cases hparse : parse raw with
  | error e =>
    obtain ⟨detail, rfl⟩ := malformedOnly_parse raw e hparse
    simp [verify, hparse, bind, Except.bind]
  | ok token =>
    rw [verify_eq hparse]
    by_cases halgorithm : token.algorithm? = some "RS256"
    · rw [if_pos halgorithm]
      cases hdecode : StrictToken.decode key raw with
      | error fault => cases fault <;> simp [rejectionOf]
      | ok claims =>
        obtain ⟨haccepted, octets, hclaims⟩ := accepted_of_decode hparse halgorithm hdecode
        refine ⟨fun claims' h => ?_, fun _ => haccepted.signed⟩
        by_cases hexpired : (checkExpiry && ! isUnexpired claims now) = true
        · simp only [if_pos hexpired] at h
          cases h
        · simp only [if_neg hexpired] at h
          cases h
          refine ⟨token, haccepted, fun hcheck => unexpired_of_isUnexpired hclaims ?_⟩
          simpa [hcheck] using hexpired
    · simp [if_neg halgorithm]

/-- A header that names RS256. -/
def sampleHeader : String := "eyJhbGciOiJSUzI1NiJ9"

/-- Claims with a time of expiry. -/
def samplePayload : String := "eyJleHAiOjl9"

/-- The number `2 ^ 682`, as a signature. -/
def sampleSignature : Bytes := List.replicate 170 0 ++ 4 :: List.replicate 85 0

/-- A key that makes it a signature of header and payload: the cube of the number is the padded
digest modulo the difference of the two. -/
def sampleKey : PublicKey where
  der :=
    let message := Utf8.encode (sampleHeader ++ "." ++ samplePayload)
    let modulus := 1 <<< 2046 - Asn1.bigEndian (RsaKey.paddedDigest 256 message)
    [0x30, 0x82, 0x01, 0x07, 0x02, 0x82, 0x01, 0x00] ++ bigEndianOctets 256 modulus
      ++ [0x02, 0x01, 0x03]

/-- A token that is signed under the key. -/
def sampleToken : String :=
  sampleHeader ++ "." ++ samplePayload ++ "." ++ Base64.encode .urlSafe .none sampleSignature

/-- The three segments of the token. -/
theorem sampleToken_isSegments : IsSegments sampleToken sampleHeader samplePayload
    (Base64.encode .urlSafe .none sampleSignature) where
  joined := rfl
  header := by decide +kernel
  payload := by decide +kernel
  signature := by
    have hdot : '.' ∉ Base64.encodeChars .urlSafe .none sampleSignature := by decide +kernel
    have hne : Base64.encodeChars .urlSafe .none sampleSignature ≠ [] := by decide +kernel
    simp [Base64.encode, hdot, hne]

/-- The strict reader accepts the token, up to the last second of its time. -/
theorem decode_sampleToken :
    ∃ claims, StrictToken.decode sampleKey sampleToken = .ok claims ∧
      isUnexpired claims ⟨9, 0⟩ = true := by
  have hheader : StrictToken.checkHeader sampleHeader = .ok () := by decide +kernel
  have hverifies : sampleKey.verifies (Utf8.encode (sampleHeader ++ "." ++ samplePayload))
      sampleSignature = true := by
    decide +kernel
  have hoctets : StrictToken.segmentOctets? (Base64.encode .urlSafe .none sampleSignature) =
      some sampleSignature := by
    rw [StrictToken.segmentOctets?, Base64.encode, Base64.decode?, String.toList_ofList]
    decide +kernel
  obtain ⟨claims, hclaims, hunexpired⟩ : ∃ claims,
      StrictToken.readClaims samplePayload = .ok claims ∧ isUnexpired claims ⟨9, 0⟩ = true :=
    Except.exists_ok_of_any (by decide +kernel)
  have hsignature := StrictToken.checkSignature_eq_ok.2
    ⟨sampleSignature, hoctets, PublicKey.verifies_iff.1 hverifies⟩
  exact ⟨claims, (StrictToken.decode_eq_ok sampleToken_isSegments).2
    ⟨hheader, hsignature, hclaims⟩, hunexpired⟩

/-- The token is taken apart, and its header names RS256. -/
theorem parse_sampleToken :
    ∃ token, parse sampleToken = .ok token ∧ token.algorithm? = some "RS256" := by
  obtain ⟨header, hheader, halgorithm⟩ : ∃ v, segmentObject sampleHeader = .ok v ∧
      decide ((v.get? "alg").bind Json.string? = some "RS256") = true :=
    Except.exists_ok_of_any (by decide +kernel)
  obtain ⟨payload, hpayload, -⟩ : ∃ v, segmentObject samplePayload = .ok v ∧
      (v.get? "exp").isSome = true :=
    Except.exists_ok_of_any (by decide +kernel)
  exact ⟨⟨header, payload, _⟩, parse_eq_ok.2 ⟨_, _, sampleToken_isSegments, hheader, hpayload⟩,
    of_decide_eq_true halgorithm⟩

/-- The token is accepted, up to the last second of its time. -/
theorem verify_sampleToken :
    ∃ claims, verify sampleToken sampleKey true ⟨9, 0⟩ = .ok claims ∧
      ∃ token, Accepted sampleKey sampleToken token claims ∧
        (true = true → Unexpired claims ⟨9, 0⟩) := by
  obtain ⟨token, hparse, halgorithm⟩ := parse_sampleToken
  obtain ⟨claims, hdecode, hunexpired⟩ := decode_sampleToken
  have haccepted : verify sampleToken sampleKey true ⟨9, 0⟩ = .ok claims := by
    rw [verify_eq hparse, if_pos halgorithm, hdecode]
    simp only [hunexpired, Bool.not_true, Bool.and_false, Bool.false_eq_true, if_false]
  exact ⟨claims, haccepted, (verify_sound _ _ _ _).1 claims haccepted⟩

end WebToken

end ProxyFilter
