import ProxyFilter.Proofs.Http.Client
import ProxyFilter.Proofs.Token.Issue

/-!
# Tokens of clients, and requests without one

A request that does not say who its client is has the client with the empty text, so the value of a
client's field is that of the request just where it names nobody
(`PayloadField.bound_clientIp_iff`). A token that names somebody in such a field is refused with
such a request, and one that names nobody is judged by all else that it says
(`SymmetricScheme.validate_withoutClient`), so it can be accepted
(`SymmetricScheme.validate_nobody`).
-/

namespace ProxyFilter

variable {headers : HeaderSet}

/-- Where the request has no client, the value of a client's field is that of the request if it
names nobody. -/
theorem PayloadField.bound_clientIp_iff (hclient : headers.clientIp? = none) {value : String} :
    clientIp.Bound headers value ↔ Address.NamesNobody value := by
  rw [Bound, hclient]
  exact Address.sameClient_empty_iff

namespace SymmetricScheme

variable {scheme : SymmetricScheme} {raw : String} {now : Instant} {token : SignedPayload}
  {entries : List (PayloadField × String)}

/-- Where the request has no client, the bindings of a payload hold if its clients' fields name
nobody and all else is that of the request. -/
theorem forall_bound_iff (hclient : headers.clientIp? = none) :
    (∀ e ∈ entries, e.1.Bound headers e.2) ↔
      (∀ value, (.clientIp, value) ∈ entries → Address.NamesNobody value) ∧
        ∀ e ∈ entries, e.1 ≠ .clientIp → e.1.Bound headers e.2 := by
  constructor
  · intro hbound
    exact ⟨fun value hvalue => (PayloadField.bound_clientIp_iff hclient).1 (hbound _ hvalue),
      fun e he _ => hbound e he⟩
  · rintro ⟨hnobody, hothers⟩ ⟨field, value⟩ he
    by_cases hfield : field = .clientIp
    · subst hfield
      exact (PayloadField.bound_clientIp_iff hclient).2 (hnobody value he)
    · exact hothers _ he hfield

/-- A token with a value that is not that of the request is refused for one. -/
theorem Reads.bindingMismatch (h : scheme.Reads raw token entries) (headers : HeaderSet)
    (now : Instant) {e : PayloadField × String} (he : e ∈ entries)
    (hbound : ¬ e.1.Bound headers e.2) :
    ∃ name, scheme.validate raw headers now = .error (.bindingMismatch name) := by
  cases hfind : entries.findSome? (mismatch? headers) with
  | none => exact absurd (findSome?_mismatch?_eq_none.1 hfind e he) hbound
  | some name =>
    exact ⟨name, (h.validate_iff headers now).2.2.1 name |>.2
      (findSome?_mismatch?_eq_some.1 hfind)⟩

/-- **With a request that has no client, a token is accepted exactly if the values of its clients'
fields name nobody, all else that it is bound to is that of the request, its signature is the keyed
digest of its payload and its timestamps let it live. A token that names somebody in one of these
fields is refused for what it is bound to, whatever its signature and age.** -/
theorem validate_withoutClient (hclient : headers.clientIp? = none) (scheme : SymmetricScheme)
    (raw : String) (now : Instant) :
    (scheme.validate raw headers now = .ok () ↔ ∃ token entries,
      scheme.Reads raw token entries ∧
        (∀ value, (.clientIp, value) ∈ entries → Address.NamesNobody value) ∧
        (∀ e ∈ entries, e.1 ≠ .clientIp → e.1.Bound headers e.2) ∧
        scheme.Signed token ∧ ∀ e ∈ entries, scheme.Fresh now e) ∧
    (∀ token entries, scheme.Reads raw token entries →
      (∃ value, (.clientIp, value) ∈ entries ∧ ¬ Address.NamesNobody value) →
        ∃ name, scheme.validate raw headers now = .error (.bindingMismatch name)) := by
  constructor
  · refine validate_eq_iff (fun _ => by simp) fun token entries h => ?_
    rw [(h.validate_iff headers now).1, forall_bound_iff hclient, and_assoc]
  · rintro token entries h ⟨value, hvalue, hsomebody⟩
    exact h.bindingMismatch headers now hvalue
      (mt (PayloadField.bound_clientIp_iff hclient).1 hsomebody)

/-- A scheme for tokens that are bound to a client and are good up to a second. -/
def clientScheme : SymmetricScheme where
  source := .header "x-token" none
  secret := [0x53]
  algorithm := .sha256
  encoding := .base64
  layout := [.clientIp, .expiresSeconds]
  delimiter := ","
  maxAge := none

/-- A request with a token and no client. -/
def clientlessRequest (payload : String) : HeaderSet :=
  HeaderSet.empty.set "x-token" (clientScheme.issue payload)

/-- The request has no client. -/
theorem clientIp?_clientlessRequest (payload : String) :
    (clientlessRequest payload).clientIp? = none := by
  rw [HeaderSet.clientIp?, clientlessRequest, HeaderSet.get?_set_of_ne (by decide)]
  rfl

/-- A token of a client is refused with the request that has none. -/
theorem validate_withoutClient_somebody :
    (clientlessRequest "192.0.2.7,2000000000").clientIp? = none ∧
      clientScheme.Reads (clientScheme.issue "192.0.2.7,2000000000")
        ⟨"192.0.2.7,2000000000", Digest.Hmac.sign .sha256 [0x53]
          (Utf8.encode "192.0.2.7,2000000000")⟩
        [(.clientIp, "192.0.2.7"), (.expiresSeconds, "2000000000")] ∧
      ¬ Address.NamesNobody "192.0.2.7" ∧
      ∃ name, clientScheme.validate (clientScheme.issue "192.0.2.7,2000000000")
        (clientlessRequest "192.0.2.7,2000000000") .epoch = .error (.bindingMismatch name) := by
  have hclient := clientIp?_clientlessRequest "192.0.2.7,2000000000"
  have hreads : clientScheme.Reads (clientScheme.issue "192.0.2.7,2000000000")
      ⟨"192.0.2.7,2000000000", Digest.Hmac.sign .sha256 [0x53]
        (Utf8.encode "192.0.2.7,2000000000")⟩
      [(.clientIp, "192.0.2.7"), (.expiresSeconds, "2000000000")] :=
    ⟨SignedPayload.parse_sign (by decide) _ _ _, by decide +kernel, rfl, by decide +kernel⟩
  have hsomebody : ¬ Address.NamesNobody "192.0.2.7" := by
    rw [← Address.bare_eq_empty_iff]
    decide +kernel
  exact ⟨hclient, hreads, hsomebody, (validate_withoutClient hclient clientScheme _ .epoch).2 _ _
    hreads ⟨_, List.mem_cons_self, hsomebody⟩⟩

/-- A token that is bound to a client is accepted with a request that has none, if it was signed for
the empty text. -/
theorem validate_nobody :
    PayloadField.clientIp ∈ clientScheme.layout ∧
      (clientlessRequest ",2000000000").clientIp? = none ∧
      clientScheme.validate (clientScheme.issue ",2000000000") (clientlessRequest ",2000000000")
        .epoch = .ok () := by
  have hclient := clientIp?_clientlessRequest ",2000000000"
  have hreads : clientScheme.Reads (clientScheme.issue ",2000000000")
      ⟨",2000000000", Digest.Hmac.sign .sha256 [0x53] (Utf8.encode ",2000000000")⟩
      [(.clientIp, ""), (.expiresSeconds, "2000000000")] :=
    ⟨SignedPayload.parse_sign (by decide) _ _ _, by decide +kernel, rfl, by decide +kernel⟩
  have hnobody : PayloadField.clientIp.Bound (clientlessRequest ",2000000000") "" :=
    (PayloadField.bound_clientIp_iff hclient).2 ⟨0, 0, by decide⟩
  have hexpires : Text.int64? "2000000000" = some 2000000000 := by decide +kernel
  refine ⟨by decide, hclient, (hreads.validate_iff _ _).1.2 ⟨?_, rfl, ?_⟩⟩
  · simp only [List.forall_mem_cons, List.not_mem_nil, false_implies, implies_true, and_true]
    exact ⟨hnobody, trivial⟩
  · simp only [List.forall_mem_cons, List.not_mem_nil, false_implies, implies_true, and_true]
    exact ⟨fresh_of_not_isTimestamp (by decide) _,
      (fresh_iff .expiresSeconds hexpires).2 (by decide)⟩

end SymmetricScheme

end ProxyFilter
