import ProxyFilter.Proofs.Failure
import ProxyFilter.Proofs.Token.Malformed
import ProxyFilter.Token.Symmetric

/-!
# Verdicts on tokens signed with a shared secret

What a scheme reads from a token is a payload and a value for each field of the layout
(`SymmetricScheme.Reads`). It is decided by the token alone; `PayloadField.Bound` says when a value
is that of the request, and `SymmetricScheme.Fresh` when it lets the token live, by the timestamps
that there are (`PayloadField.Limits`). With these
`SymmetricScheme.validate_verdict` tells exactly when a token is accepted, and for which reason one
is refused: its form comes first, then what it is bound to, its signature and its age.
-/

namespace ProxyFilter

/-! ## Digests -/

namespace Digest

/-- A digest has the length of its algorithm. -/
theorem Algorithm.length_hash (algorithm : Algorithm) (message : Bytes) :
    (algorithm.hash message).length = algorithm.size := by
  cases algorithm <;> rfl

/-- A keyed digest has the length of its algorithm. -/
theorem Hmac.length_sign (algorithm : Algorithm) (key message : Bytes) :
    (Hmac.sign algorithm key message).length = algorithm.size :=
  algorithm.length_hash _

end Digest

/-! ## What a token says -/

namespace PayloadField

/-- The fields that limit the life of a token, with the unit that their timestamp counts and the
rule it is judged by, where `maxAge` is the greatest age of a token with a time of issue. -/
inductive Limits (maxAge : Duration) : PayloadField → Resolution → Freshness → Prop
  /-- The token is good up to a second. -/
  | expiresSeconds : Limits maxAge expiresSeconds .seconds .expiresAt
  /-- The token is good up to a nanosecond. -/
  | expiresNanos : Limits maxAge expiresNanos .nanos .expiresAt
  /-- The token is good for a while from a second on. -/
  | issuedSeconds : Limits maxAge issuedSeconds .seconds (.issuedAt maxAge)
  /-- The token is good for a while from a nanosecond on. -/
  | issuedNanos : Limits maxAge issuedNanos .nanos (.issuedAt maxAge)

/-- The value of the field is a timestamp. -/
def IsTimestamp (field : PayloadField) : Prop :=
  ∃ maxAge resolution rule, field.Limits maxAge resolution rule

variable {field : PayloadField} {maxAge : Duration} {resolution : Resolution} {rule : Freshness}

/-- A field limits the life of a token at the resolution it has, and by the age if it is a time of
issue. -/
theorem limits_iff : field.Limits maxAge resolution rule ↔ field.resolution? = some resolution ∧
    rule = if field.isIssueTime then .issuedAt maxAge else .expiresAt := by
  constructor
  · rintro (_ | _ | _ | _) <;> exact ⟨rfl, rfl⟩
  · rintro ⟨hresolution, rfl⟩
    cases field <;> cases hresolution <;> constructor

/-- The fields that have a resolution are timestamps. -/
theorem isTimestamp_iff : field.IsTimestamp ↔ field.isTimestamp = true := by
  simp only [IsTimestamp, limits_iff, isTimestamp, Option.isSome_iff_exists]
  constructor
  · rintro ⟨-, resolution, -, hresolution, -⟩
    exact ⟨resolution, hresolution⟩
  · rintro ⟨resolution, hresolution⟩
    exact ⟨.zero, resolution, _, hresolution, rfl⟩

instance : DecidablePred IsTimestamp := fun _ => decidable_of_iff _ isTimestamp_iff.symm

end PayloadField

/-- The value of a field is that of the request. -/
def PayloadField.Bound (headers : HeaderSet) : PayloadField → String → Prop
  | clientIp, value => Address.sameClient value (headers.clientIp?.getD "") = true
  | method, value => headers.get? Header.method = some value
  | path, value => ∃ path, headers.get? Header.path = some path ∧ (Query.splitPath path).1 = value
  | _, _ => True

/-- The name of a field that is compared with the request. -/
def PayloadField.boundName? : PayloadField → Option String
  | clientIp => some "client_ip"
  | method => some "method"
  | path => some "path"
  | _ => none

namespace SymmetricScheme

/-- The payload of a token, and the value of each field of the layout in it. -/
structure Reads (scheme : SymmetricScheme) (raw : String) (token : SignedPayload)
    (entries : List (PayloadField × String)) : Prop where
  parse : SignedPayload.parse scheme.encoding raw = .ok token
  values : entries.map Prod.snd = Text.splitText scheme.delimiter token.payload
  layout : entries.map Prod.fst = scheme.layout
  timestamps : ∀ entry ∈ entries, entry.1.IsTimestamp → (Text.int64? entry.2).isSome = true

/-- A value lets the token live: it is no timestamp, or one that the rule of its field accepts. -/
def Fresh (scheme : SymmetricScheme) (now : Instant) (entry : PayloadField × String) : Prop :=
  ∀ resolution rule value, entry.1.Limits (scheme.maxAge.getD .zero) resolution rule →
    Text.int64? entry.2 = some value → rule.holds value resolution now = true

/-- The signature of a token is the keyed digest of its payload. -/
def Signed (scheme : SymmetricScheme) (token : SignedPayload) : Prop :=
  token.signature = Digest.Hmac.sign scheme.algorithm scheme.secret (Utf8.encode token.payload)

/-- The first value that is not that of the request stands in a field of this name. -/
def FirstMismatch (headers : HeaderSet) (entries : List (PayloadField × String))
    (name : String) : Prop :=
  ∃ before entry after, entries = before ++ entry :: after ∧
    (∀ e ∈ before, e.1.Bound headers e.2) ∧ ¬ entry.1.Bound headers entry.2 ∧
    entry.1.boundName? = some name

variable {scheme : SymmetricScheme} {raw : String} {headers : HeaderSet} {now : Instant}
  {token : SignedPayload} {entries : List (PayloadField × String)}

/-- The rule of a scheme for a field is the one by which the field limits the life of a token. -/
theorem limits_iff {field : PayloadField} {resolution : Resolution} {rule : Freshness} :
    field.Limits (scheme.maxAge.getD .zero) resolution rule ↔
      field.resolution? = some resolution ∧ rule = scheme.rule field :=
  PayloadField.limits_iff

/-- A timestamp lets the token live if the rule of its field accepts the number it is read as. -/
theorem fresh_iff {field : PayloadField} {resolution : Resolution} {rule : Freshness}
    {value : Int} {text : String}
    (hlimits : field.Limits (scheme.maxAge.getD .zero) resolution rule)
    (hvalue : Text.int64? text = some value) :
    scheme.Fresh now (field, text) ↔ rule.holds value resolution now = true := by
  constructor
  · exact fun hfresh => hfresh resolution rule value hlimits hvalue
  · intro h resolution' rule' value' hlimits' hvalue'
    obtain ⟨hresolution, rfl⟩ := limits_iff.1 hlimits
    obtain ⟨hresolution', rfl⟩ := limits_iff.1 hlimits'
    cases hresolution.symm.trans hresolution'
    cases hvalue.symm.trans hvalue'
    exact h

/-- A value that is no timestamp lets the token live. -/
theorem fresh_of_not_isTimestamp {field : PayloadField} (h : ¬ field.IsTimestamp)
    (text : String) : scheme.Fresh now (field, text) :=
  fun _ _ _ hlimits => absurd ⟨_, _, _, hlimits⟩ h

/-! ## Faults of form -/

/-- A value that may be absent is read so. -/
theorem malformedOnly_orMalformed {α : Type} (detail : String) (a : Option α) :
    MalformedOnly (SignedPayload.orMalformed detail a) := by
  cases a with
  | none => exact .error detail
  | some a => exact .ok a

/-- A token is taken apart, or is malformed. -/
theorem malformedOnly_parse (encoding : TokenEncoding) (raw : String) :
    MalformedOnly (SignedPayload.parse encoding raw) := by
  refine .bind (malformedOnly_orMalformed _ _) fun ⟨payload, signature⟩ => ?_
  dsimp only
  split
  · exact .error _
  · cases encoding with
    | base64 =>
      refine .bind (malformedOnly_orMalformed _ _) fun _ => ?_
      refine .bind (malformedOnly_orMalformed _ _) fun _ => ?_
      exact .bind (malformedOnly_orMalformed _ _) fun _ => .ok _
    | hex => exact .bind (malformedOnly_orMalformed _ _) fun _ => .ok _

/-- The fields are as many as expected, or the token is malformed. -/
theorem malformedOnly_fields (token : SignedPayload) (delimiter : String) (expected : Nat) :
    MalformedOnly (token.fields delimiter expected) := by
  simp only [SignedPayload.fields]
  split
  · exact .ok _
  · exact .error _

/-- The timestamps of a payload, the first field apart. -/
theorem stamps_cons (entry : PayloadField × String) (entries : List (PayloadField × String)) :
    stamps (entry :: entries) =
      stamp entry >>= fun s => (stamps entries).map (s.toList ++ ·) := by
  simp only [stamps, List.mapM_cons]
  cases stamp entry with
  | error e => rfl
  | ok s =>
    cases entries.mapM stamp with
    | error e => rfl
    | ok found => cases s <;> rfl

/-- A timestamp is that of a field, at the resolution of the field. -/
theorem stamp_eq_some {entry : PayloadField × String} {s : Stamp}
    (h : stamp entry = .ok (some s)) :
    s.field = entry.1 ∧ entry.1.resolution? = some s.resolution := by
  unfold stamp at h
  split at h
  · cases h
  · next hresolution =>
    split at h <;> cases h
    exact ⟨rfl, hresolution⟩

/-- A timestamp of a payload is that of one of its fields. By induction on the fields. -/
theorem exists_of_mem_stamps {found : List Stamp} (h : stamps entries = .ok found) {s : Stamp}
    (hs : s ∈ found) : ∃ entry ∈ entries, stamp entry = .ok (some s) := by
  induction entries generalizing found with
  | nil =>
    cases h
    cases hs
  | cons entry entries ih =>
    rw [stamps_cons] at h
    obtain ⟨first, hfirst, h⟩ := Except.bind_eq_ok h
    obtain ⟨rest, hrest, rfl⟩ := Except.map_eq_ok h
    rcases List.mem_append.1 hs with hs | hs
    · obtain rfl := Option.mem_toList.1 hs
      exact ⟨entry, List.mem_cons_self, hfirst⟩
    · obtain ⟨entry', hentry', hstamp⟩ := ih hrest hs
      exact ⟨entry', List.mem_cons_of_mem _ hentry', hstamp⟩

/-- A value is no timestamp, a timestamp that says when the token is fresh, or malformed. -/
theorem stamp_cases (entry : PayloadField × String) :
    (∃ s, stamp entry = .ok s ∧ (entry.1.IsTimestamp → (Text.int64? entry.2).isSome = true) ∧
      ∀ (scheme : SymmetricScheme) now, s.toList.all (scheme.isFresh now) = true ↔
        scheme.Fresh now entry) ∨
    (∃ detail, stamp entry = .error (.malformedToken detail)) ∧
      ¬ (entry.1.IsTimestamp → (Text.int64? entry.2).isSome = true) := by
  simp only [stamp, PayloadField.isTimestamp_iff, PayloadField.isTimestamp, Fresh, limits_iff]
  cases hresolution : entry.1.resolution? with
  | none => exact .inl ⟨none, rfl, by simp, by simp⟩
  | some resolution =>
    cases hvalue : Text.int64? entry.2 with
    | none => exact .inr ⟨⟨_, rfl⟩, by simp⟩
    | some value => exact .inl ⟨_, rfl, by simp, by simp [isFresh]⟩

/-- The timestamps of a payload are those that say when it is fresh, or one of them is
malformed. By induction on the fields. -/
theorem stamps_cases (entries : List (PayloadField × String)) :
    (∃ found, stamps entries = .ok found ∧
      (∀ e ∈ entries, e.1.IsTimestamp → (Text.int64? e.2).isSome = true) ∧
      ∀ (scheme : SymmetricScheme) now, found.all (scheme.isFresh now) = true ↔
        ∀ e ∈ entries, scheme.Fresh now e) ∨
    (∃ detail, stamps entries = .error (.malformedToken detail)) ∧
      ¬ ∀ e ∈ entries, e.1.IsTimestamp → (Text.int64? e.2).isSome = true := by
  induction entries with
  | nil => exact .inl ⟨[], rfl, by simp, by simp⟩
  | cons entry entries ih =>
    rw [stamps_cons]
    simp only [List.forall_mem_cons]
    rcases stamp_cases entry with ⟨s, hs, hstamp, hfresh⟩ | ⟨⟨detail, hs⟩, hbad⟩
    · rcases ih with ⟨found, hfound, hstamps, hall⟩ | ⟨⟨detail, hfound⟩, hbad⟩
      · refine .inl ⟨s.toList ++ found, by rw [hs, hfound]; rfl, ⟨hstamp, hstamps⟩, ?_⟩
        intro scheme now
        rw [List.all_append, Bool.and_eq_true, hfresh, hall]
      · exact .inr ⟨⟨detail, by rw [hs, hfound]; rfl⟩, fun h => hbad h.2⟩
    · exact .inr ⟨⟨detail, by rw [hs]; rfl⟩, fun h => hbad h.1⟩

/-! ## Bindings -/

/-- A value that is not that of the request is told by the name of its field. -/
theorem mismatch?_eq_some {entry : PayloadField × String} {name : String} :
    mismatch? headers entry = some name ↔
      ¬ entry.1.Bound headers entry.2 ∧ entry.1.boundName? = some name := by
  obtain ⟨field, value⟩ := entry
  cases field <;> simp [mismatch?, PayloadField.Bound, PayloadField.boundName?]

/-- A value that is that of the request is no mismatch. -/
theorem mismatch?_eq_none {entry : PayloadField × String} :
    mismatch? headers entry = none ↔ entry.1.Bound headers entry.2 := by
  obtain ⟨field, value⟩ := entry
  cases field <;> simp [mismatch?, PayloadField.Bound]

/-- The bindings of a payload hold. -/
theorem findSome?_mismatch?_eq_none : entries.findSome? (mismatch? headers) = none ↔
    ∀ e ∈ entries, e.1.Bound headers e.2 := by
  simp only [List.findSome?_eq_none_iff, mismatch?_eq_none]

/-- The bindings of a payload fail at the first mismatch. -/
theorem findSome?_mismatch?_eq_some {name : String} :
    entries.findSome? (mismatch? headers) = some name ↔ FirstMismatch headers entries name := by
  simp only [List.findSome?_eq_some_iff, mismatch?_eq_none, mismatch?_eq_some, FirstMismatch]
  constructor
  · rintro ⟨before, entry, after, hentries, ⟨hbad, hname⟩, hbefore⟩
    exact ⟨before, entry, after, hentries, hbefore, hbad, hname⟩
  · rintro ⟨before, entry, after, hentries, hbefore, hbad, hname⟩
    exact ⟨before, entry, after, hentries, ⟨hbad, hname⟩, hbefore⟩

/-! ## The verdict -/

/-- A payload with as many parts as the layout has fields is read part by part. -/
theorem fields_eq_ok {fields : List String}
    (h : token.fields scheme.delimiter scheme.layout.length = .ok fields) :
    (scheme.layout.zip fields).map Prod.snd = Text.splitText scheme.delimiter token.payload ∧
      (scheme.layout.zip fields).map Prod.fst = scheme.layout := by
  simp only [SignedPayload.fields] at h
  split at h
  · next hlength =>
    cases h
    exact ⟨List.map_snd_zip (by omega), List.map_fst_zip (by omega)⟩
  · cases h

/-- A token that says nothing is malformed. -/
theorem validate_of_not_reads (h : ¬ ∃ token entries, scheme.Reads raw token entries)
    (headers : HeaderSet) (now : Instant) :
    ∃ detail, scheme.validate raw headers now = .error (.malformedToken detail) := by
  cases hparse : SignedPayload.parse scheme.encoding raw with
  | error e =>
    obtain ⟨detail, rfl⟩ := malformedOnly_parse _ _ e hparse
    exact ⟨detail, by simp only [validate, hparse, bind, Except.bind]⟩
  | ok token =>
    cases hfields : token.fields scheme.delimiter scheme.layout.length with
    | error e =>
      obtain ⟨detail, rfl⟩ := malformedOnly_fields _ _ _ e hfields
      exact ⟨detail, by simp only [validate, hparse, hfields, bind, Except.bind]⟩
    | ok fields =>
      obtain ⟨hvalues, hlayout⟩ := fields_eq_ok hfields
      rcases stamps_cases (scheme.layout.zip fields) with ⟨-, -, hstamps, -⟩ | ⟨⟨detail, hbad⟩, -⟩
      · exact absurd ⟨token, _, hparse, hvalues, hlayout, hstamps⟩ h
      · exact ⟨detail, by simp only [validate, hparse, hfields, hbad, bind, Except.bind]⟩

/-- A token that says something is judged by what it says: what it is bound to, its signature and
its age. -/
theorem Reads.validate_eq (h : scheme.Reads raw token entries) (headers : HeaderSet)
    (now : Instant) : ∃ fresh, (fresh = true ↔ ∀ e ∈ entries, scheme.Fresh now e) ∧
      scheme.validate raw headers now =
        match entries.findSome? (mismatch? headers) with
        | some field => .error (.bindingMismatch field)
        | none =>
          if scheme.signatureHolds token then if fresh then .ok () else .error .expired
          else .error .signatureInvalid := by
  have hlength : (Text.splitText scheme.delimiter token.payload).length = scheme.layout.length := by
    rw [← h.values, ← h.layout, List.length_map, List.length_map]
  have hfields : token.fields scheme.delimiter scheme.layout.length =
      .ok (Text.splitText scheme.delimiter token.payload) := if_pos hlength
  rcases stamps_cases entries with ⟨found, hfound, -, hfresh⟩ | ⟨-, hbad⟩
  · refine ⟨found.all (scheme.isFresh now), hfresh scheme now, ?_⟩
    simp only [validate, h.parse, hfields, bind, Except.bind, checkBindings,
      ← List.zip_of_prod h.layout h.values, hfound]
    cases entries.findSome? (mismatch? headers) with
    | some field => rfl
    | none => cases scheme.signatureHolds token <;> rfl
  · exact absurd h.timestamps hbad

/-- The signature holds if it is the keyed digest of the payload. -/
theorem signatureHolds_iff : scheme.signatureHolds token = true ↔ scheme.Signed token := by
  simp only [signatureHolds, Digest.Hmac.verify, Bool.and_eq_true, beq_iff_eq]
  exact ⟨And.right, fun h => ⟨by rw [h, Digest.Hmac.length_sign], h⟩⟩

/-- A token that says something gets one of four verdicts. -/
theorem Reads.validate_iff (h : scheme.Reads raw token entries) (headers : HeaderSet)
    (now : Instant) :
    (scheme.validate raw headers now = .ok () ↔ (∀ e ∈ entries, e.1.Bound headers e.2) ∧
      scheme.Signed token ∧ ∀ e ∈ entries, scheme.Fresh now e) ∧
    (∀ detail, scheme.validate raw headers now ≠ .error (.malformedToken detail)) ∧
    (∀ name, scheme.validate raw headers now = .error (.bindingMismatch name) ↔
      FirstMismatch headers entries name) ∧
    (scheme.validate raw headers now = .error .signatureInvalid ↔
      (∀ e ∈ entries, e.1.Bound headers e.2) ∧ ¬ scheme.Signed token) ∧
    (scheme.validate raw headers now = .error .expired ↔
      (∀ e ∈ entries, e.1.Bound headers e.2) ∧ scheme.Signed token ∧
        ¬ ∀ e ∈ entries, scheme.Fresh now e) := by
  obtain ⟨fresh, hfresh, hvalid⟩ := h.validate_eq headers now
  rw [hvalid, ← hfresh]
  simp only [← findSome?_mismatch?_eq_none, ← findSome?_mismatch?_eq_some, ← signatureHolds_iff]
  cases entries.findSome? (mismatch? headers) with
  | some field => simp
  | none => cases scheme.signatureHolds token <;> cases fresh <;> simp

/-- A verdict that is not about the form of a token is one about what it says. -/
theorem validate_eq_iff {result : Except Rejection Unit}
    {P : SignedPayload → List (PayloadField × String) → Prop}
    (hform : ∀ detail, result ≠ .error (.malformedToken detail))
    (h : ∀ token entries, scheme.Reads raw token entries →
      (scheme.validate raw headers now = result ↔ P token entries)) :
    scheme.validate raw headers now = result ↔
      ∃ token entries, scheme.Reads raw token entries ∧ P token entries := by
  constructor
  · intro hvalid
    by_cases hreads : ∃ token entries, scheme.Reads raw token entries
    · obtain ⟨token, entries, hreads⟩ := hreads
      exact ⟨token, entries, hreads, (h token entries hreads).1 hvalid⟩
    · obtain ⟨detail, hmalformed⟩ := validate_of_not_reads hreads headers now
      exact absurd (hvalid.symm.trans hmalformed) (hform detail)
  · rintro ⟨token, entries, hreads, hP⟩
    exact (h token entries hreads).2 hP

/-- A token is refused for what it is bound to at the first mismatch. -/
theorem validate_bindingMismatch_iff {name : String} :
    scheme.validate raw headers now = .error (.bindingMismatch name) ↔
      ∃ token entries, scheme.Reads raw token entries ∧ FirstMismatch headers entries name :=
  validate_eq_iff (fun _ => by simp) fun _ _ h => (h.validate_iff headers now).2.2.1 name

/-- Two tokens with one payload say the same, to schemes that read payloads alike. -/
theorem Reads.of_payload {scheme' : SymmetricScheme} {raw' : String} {token' : SignedPayload}
    (h : scheme.Reads raw token entries) (hlayout : scheme'.layout = scheme.layout)
    (hdelimiter : scheme'.delimiter = scheme.delimiter)
    (hparse : SignedPayload.parse scheme'.encoding raw' = .ok token')
    (hpayload : token'.payload = token.payload) : scheme'.Reads raw' token' entries where
  parse := hparse
  values := by rw [h.values, hdelimiter, hpayload]
  layout := h.layout.trans hlayout.symm
  timestamps := h.timestamps

/-- A token that says something else than the request is refused for that, whatever its signature
and the clock. -/
theorem bindingMismatch_of_payload {scheme' : SymmetricScheme} {raw' name : String}
    {now' : Instant} {token token' : SignedPayload} (hlayout : scheme'.layout = scheme.layout)
    (hdelimiter : scheme'.delimiter = scheme.delimiter)
    (hparse : SignedPayload.parse scheme.encoding raw = .ok token)
    (hparse' : SignedPayload.parse scheme'.encoding raw' = .ok token')
    (hpayload : token'.payload = token.payload)
    (h : scheme.validate raw headers now = .error (.bindingMismatch name)) :
    scheme'.validate raw' headers now' = .error (.bindingMismatch name) := by
  obtain ⟨token₁, entries, hreads, hmismatch⟩ := validate_bindingMismatch_iff.1 h
  cases hparse.symm.trans hreads.parse
  exact validate_bindingMismatch_iff.2
    ⟨token', entries, hreads.of_payload hlayout hdelimiter hparse' hpayload, hmismatch⟩

/-- **A token is accepted exactly if it can be read, all it is bound to is that of the request, its
signature is the keyed digest of its payload and all its timestamps let it live. Otherwise the first
of these that fails is the reason, and of the bindings the first in the layout. So whether a token
is bound to another client, method or path depends on its payload and the request only.** -/
theorem validate_verdict (scheme : SymmetricScheme) (raw : String) (headers : HeaderSet)
    (now : Instant) :
    (scheme.validate raw headers now = .ok () ↔ ∃ token entries,
      scheme.Reads raw token entries ∧ (∀ e ∈ entries, e.1.Bound headers e.2) ∧
        scheme.Signed token ∧ ∀ e ∈ entries, scheme.Fresh now e) ∧
    ((∃ detail, scheme.validate raw headers now = .error (.malformedToken detail)) ↔
      ¬ ∃ token entries, scheme.Reads raw token entries) ∧
    (∀ name, scheme.validate raw headers now = .error (.bindingMismatch name) ↔
      ∃ token entries, scheme.Reads raw token entries ∧ FirstMismatch headers entries name) ∧
    (scheme.validate raw headers now = .error .signatureInvalid ↔ ∃ token entries,
      scheme.Reads raw token entries ∧ (∀ e ∈ entries, e.1.Bound headers e.2) ∧
        ¬ scheme.Signed token) ∧
    (scheme.validate raw headers now = .error .expired ↔ ∃ token entries,
      scheme.Reads raw token entries ∧ (∀ e ∈ entries, e.1.Bound headers e.2) ∧
        scheme.Signed token ∧ ¬ ∀ e ∈ entries, scheme.Fresh now e) ∧
    (∀ (scheme' : SymmetricScheme) raw' now' token token' name,
      scheme'.encoding = scheme.encoding → scheme'.layout = scheme.layout →
      scheme'.delimiter = scheme.delimiter →
      SignedPayload.parse scheme.encoding raw = .ok token →
      SignedPayload.parse scheme.encoding raw' = .ok token' → token'.payload = token.payload →
      (scheme'.validate raw' headers now' = .error (.bindingMismatch name) ↔
        scheme.validate raw headers now = .error (.bindingMismatch name))) := by
  refine ⟨?_, ?_, fun name => validate_bindingMismatch_iff, ?_, ?_, ?_⟩
  · exact validate_eq_iff (fun _ => by simp) fun _ _ h => (h.validate_iff headers now).1
  · constructor
    · rintro ⟨detail, hvalid⟩ ⟨token, entries, h⟩
      exact (h.validate_iff headers now).2.1 detail hvalid
    · exact fun h => validate_of_not_reads h headers now
  · exact validate_eq_iff (fun _ => by simp) fun _ _ h => (h.validate_iff headers now).2.2.2.1
  · exact validate_eq_iff (fun _ => by simp) fun _ _ h => (h.validate_iff headers now).2.2.2.2
  · intro scheme' raw' now' token token' name hencoding hlayout hdelimiter hparse hparse' hpayload
    rw [← hencoding] at hparse'
    constructor
    · exact bindingMismatch_of_payload hlayout.symm hdelimiter.symm hparse' hparse hpayload.symm
    · exact bindingMismatch_of_payload hlayout hdelimiter hparse hparse' hpayload

end SymmetricScheme

end ProxyFilter
