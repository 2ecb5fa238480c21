import ProxyFilter.Proofs.Text.Decimal
import ProxyFilter.Proofs.Time.Freshness
import ProxyFilter.Proofs.Token.Issue

/-!
# Verdicts as time passes

Of all that a token scheme checks only the last step looks at the clock
(`SymmetricScheme.validate_eq_bind`, `WebTokenScheme.validate_eq_bind`), so that a refusal for
anything but age is the same at any two instants (`TokenScheme.validate_eq_error_iff`). A token that
passes the last step later passes it before, unless it has a timestamp in nanoseconds
(`TokenScheme.CountsNanos`) and the earlier instant overruns the later one, as one of a leap second
may. So a verdict stays as it is until the token expires, and then it stays so: `Ages` says what a
later verdict may be, and `TokenScheme.validate_ages` that it is one of these.

The exception is no wider than it has to be: wherever an instant overruns a later one, some token
has expired at the first and is accepted at the second (`TokenScheme.exists_revived`).
-/

namespace ProxyFilter

/-- What a verdict may be at a later instant: the same, or that the token has expired. -/
inductive Ages : Except Rejection Unit → Except Rejection Unit → Prop
  /-- It stays as it is. -/
  | same (verdict : Except Rejection Unit) : Ages verdict verdict
  /-- A token that was accepted has expired. -/
  | expires : Ages (.ok ()) (.error .expired)

/-- A verdict ages if all that comes before the last test is timeless, and what passes the test
later passes it before. -/
theorem Ages.bind {α : Type} {check : Except Rejection α} {test test' : α → Bool}
    (h : ∀ a, check = .ok a → test' a = true → test a = true) :
    Ages (check >>= fun a => if test a then .ok () else .error .expired)
      (check >>= fun a => if test' a then .ok () else .error .expired) := by
  cases check with
  | error e => exact .same _
  | ok a =>
    change Ages (if test a then .ok () else .error .expired)
      (if test' a then .ok () else .error .expired)
    cases hlater : test' a with
    | true =>
      rw [h a rfl hlater]
      exact .same _
    | false =>
      cases test a with
      | true => exact .expires
      | false => exact .same _

/-- A refusal for anything but age comes before the last test. -/
theorem Rejection.bind_test_eq_error_iff {α : Type} (check : Except Rejection α) (test : α → Bool)
    {reason : Rejection} (hreason : reason ≠ .expired) :
    (check >>= fun a => if test a then Except.ok () else .error .expired) = .error reason ↔
      check = .error reason := by
  cases check with
  | error e => simp [bind, Except.bind]
  | ok a => cases htest : test a <;> simp [bind, Except.bind, htest, hreason.symm]

variable {t u : Instant}

/-! ## Tokens signed with a shared secret -/

namespace SymmetricScheme

/-- What a scheme checks before it looks at the clock, and the timestamps of the token. -/
def checkTimeless (scheme : SymmetricScheme) (raw : String) (headers : HeaderSet) :
    Except Rejection (List Stamp) := do
  let token ← SignedPayload.parse scheme.encoding raw
  let fields ← token.fields scheme.delimiter scheme.layout.length
  let entries := scheme.layout.zip fields
  let stamps ← stamps entries
  checkBindings headers entries
  if ! scheme.signatureHolds token then throw .signatureInvalid
  return stamps

/-- The clock is looked at in the last step. -/
theorem validate_eq_bind (scheme : SymmetricScheme) (raw : String) (headers : HeaderSet)
    (now : Instant) : scheme.validate raw headers now =
      scheme.checkTimeless raw headers >>= fun stamps =>
        if stamps.all (scheme.isFresh now) then .ok () else .error .expired := by
  simp only [validate, checkTimeless, bind_assoc]
  refine bind_congr fun token => bind_congr fun _ => bind_congr fun _ => bind_congr fun _ => ?_
  cases scheme.signatureHolds token <;> rfl

/-- The timestamps that a scheme judges stand in fields of its layout, which limit the life of the
token at their resolution and by their rule. -/
theorem limits_of_checkTimeless {scheme : SymmetricScheme} {raw : String} {headers : HeaderSet}
    {found : List Stamp} (h : scheme.checkTimeless raw headers = .ok found) {s : Stamp}
    (hs : s ∈ found) : s.field ∈ scheme.layout ∧
      s.field.Limits (scheme.maxAge.getD .zero) s.resolution (scheme.rule s.field) := by
  obtain ⟨token, -, h⟩ := Except.bind_eq_ok h
  obtain ⟨fields, hfields, h⟩ := Except.bind_eq_ok h
  obtain ⟨stamps, hstamps, h⟩ := Except.bind_eq_ok h
  obtain ⟨-, -, h⟩ := Except.bind_eq_ok h
  extract_lets at h
  obtain ⟨-, h⟩ := Except.throwIf_eq_ok h
  cases h
  obtain ⟨entry, hentry, hstamp⟩ := exists_of_mem_stamps hstamps hs
  obtain ⟨hfield, hresolution⟩ := stamp_eq_some hstamp
  have hmem : entry.1 ∈ (scheme.layout.zip fields).map Prod.fst := List.mem_map_of_mem hentry
  rw [(fields_eq_ok hfields).2] at hmem
  rw [hfield]
  exact ⟨hmem, limits_iff.2 ⟨hresolution, rfl⟩⟩

/-- A timestamp of the scheme counts nanoseconds. -/
def CountsNanos (scheme : SymmetricScheme) : Prop :=
  ∃ field ∈ scheme.layout, ∃ maxAge rule, field.Limits maxAge .nanos rule

/-- The verdict of a scheme ages: a timestamp that lets the token live later does so before. -/
theorem validate_ages {scheme : SymmetricScheme} (raw : String) (headers : HeaderSet)
    (hepoch : .epoch ≤ t) (h : t ≤ u) (hruns : scheme.CountsNanos → ¬ t.Overruns u) :
    Ages (scheme.validate raw headers t) (scheme.validate raw headers u) := by
  simp only [validate_eq_bind]
  refine .bind fun stamps hstamps hlater => ?_
  rw [List.all_eq_true] at hlater ⊢
  intro s hs
  refine Freshness.holds_of_le hepoch h (fun hnanos => hruns ?_) (hlater s hs)
  obtain ⟨hfield, hlimits⟩ := limits_of_checkTimeless hstamps hs
  rw [hnanos] at hlimits
  exact ⟨s.field, hfield, _, _, hlimits⟩

end SymmetricScheme

/-! ## Tokens signed with a private key -/

/-- Claims that are not expired later are not before. -/
theorem WebToken.isUnexpired_of_le {claims : Json} (h : t ≤ u)
    (hu : isUnexpired claims u = true) : isUnexpired claims t = true := by
  unfold isUnexpired at hu ⊢
  split at hu
  · exact decide_eq_true (le_trans (Instant.seconds_le h) (of_decide_eq_true hu))
  · cases hu

namespace WebTokenScheme

/-- What a scheme checks before it looks at the clock, and the claims of the token. -/
def checkTimeless (scheme : WebTokenScheme) (raw : String) : Except Rejection Json := do
  let token ← WebToken.parse raw
  if token.algorithm? ≠ some StrictToken.algorithm then throw .signatureInvalid
  (StrictToken.decode scheme.key raw).mapError WebToken.rejectionOf

/-- The clock is looked at in the last step. -/
theorem validate_eq_bind (scheme : WebTokenScheme) (raw : String) (now : Instant) :
    scheme.validate raw now = scheme.checkTimeless raw >>= fun claims =>
      if ! scheme.checkExpiry || WebToken.isUnexpired claims now then .ok ()
      else .error .expired := by
  simp only [validate, WebToken.verify, checkTimeless]
  cases WebToken.parse raw with
  | error e => rfl
  | ok token =>
    by_cases halgorithm : token.algorithm? = some StrictToken.algorithm
    · have hguard : ¬ token.algorithm? ≠ some StrictToken.algorithm := not_not_intro halgorithm
      simp only [bind, Except.bind, if_neg hguard]
      cases StrictToken.decode scheme.key raw with
      | error fault => rfl
      | ok claims =>
        cases scheme.checkExpiry <;> cases hfresh : WebToken.isUnexpired claims now <;>
          simp [Except.mapError, pure, Except.pure, Except.map, throw, throwThe,
            MonadExceptOf.throw, hfresh]
    · have hguard : token.algorithm? ≠ some StrictToken.algorithm := halgorithm
      simp only [bind, Except.bind, if_pos hguard]
      rfl

/-- The verdict of a scheme ages. -/
theorem validate_ages (scheme : WebTokenScheme) (raw : String) (h : t ≤ u) :
    Ages (scheme.validate raw t) (scheme.validate raw u) := by
  simp only [validate_eq_bind]
  refine .bind fun claims _ hlater => ?_
  rw [Bool.or_eq_true] at hlater ⊢
  exact hlater.imp_right (WebToken.isUnexpired_of_le h)

end WebTokenScheme

/-! ## Token schemes -/

namespace TokenScheme

/-- A timestamp of the scheme counts nanoseconds. -/
def CountsNanos : TokenScheme → Prop
  | symmetric scheme => scheme.CountsNanos
  | web _ => False

/-- The verdict on a request ages. -/
theorem validate_ages {scheme : TokenScheme} (headers : HeaderSet) (hepoch : .epoch ≤ t)
    (h : t ≤ u) (hruns : scheme.CountsNanos → ¬ t.Overruns u) :
    Ages (scheme.validate headers t) (scheme.validate headers u) := by
  simp only [validate]
  cases scheme.source.extract headers with
  | error e => exact .same _
  | ok raw =>
    cases scheme with
    | symmetric scheme => exact SymmetricScheme.validate_ages raw headers hepoch h hruns
    | web scheme => exact scheme.validate_ages raw h

/-- A refusal for anything but age is the same at any two instants. -/
theorem validate_eq_error_iff (scheme : TokenScheme) (headers : HeaderSet) (t u : Instant)
    {reason : Rejection} (hreason : reason ≠ .expired) :
    scheme.validate headers t = .error reason ↔ scheme.validate headers u = .error reason := by
  simp only [validate]
  cases scheme.source.extract headers with
  | error e => exact Iff.rfl
  | ok raw =>
    cases scheme with
    | symmetric scheme =>
      change scheme.validate raw headers t = _ ↔ scheme.validate raw headers u = _
      simp only [SymmetricScheme.validate_eq_bind, Rejection.bind_test_eq_error_iff _ _ hreason]
    | web scheme =>
      change scheme.validate raw t = _ ↔ scheme.validate raw u = _
      simp only [WebTokenScheme.validate_eq_bind, Rejection.bind_test_eq_error_iff _ _ hreason]

/-- **Time only ages a token: what is accepted later was accepted before, and a token that has
expired stays expired, unless the scheme counts nanoseconds and there are more of them at the first
instant than at the second, which is so only from a leap second into the second after it. Any other
refusal is the same at both instants.** -/
theorem validate_of_le (scheme : TokenScheme) (headers : HeaderSet) (hepoch : .epoch ≤ t)
    (h : t ≤ u) :
    (¬ (scheme.CountsNanos ∧ t.Overruns u) →
      (scheme.validate headers u = .ok () → scheme.validate headers t = .ok ()) ∧
      (scheme.validate headers t = .error .expired →
        scheme.validate headers u = .error .expired)) ∧
    (∀ reason, reason ≠ .expired →
      (scheme.validate headers t = .error reason ↔ scheme.validate headers u = .error reason)) ∧
    (t.nanos < 2000000000 →
      (t.Overruns u ↔ u.seconds = t.seconds + 1 ∧ u.nanos + 1000000000 < t.nanos ∧
        u.totalNanos < Text.int64Max)) := by
  refine ⟨fun hruns => ?_, fun reason => scheme.validate_eq_error_iff headers t u,
    Instant.overruns_iff h⟩
  have hages := validate_ages headers hepoch h (not_and.1 hruns)
  generalize scheme.validate headers t = before at hages ⊢
  generalize scheme.validate headers u = after at hages ⊢
  cases hages with
  | same => exact ⟨id, id⟩
  | expires => exact ⟨fun _ => rfl, fun _ => rfl⟩

/-- A scheme with a time of expiry in seconds and a time of issue in nanoseconds. -/
def briefScheme : SymmetricScheme where
  source := .header "x-token" none
  secret := [0x6b, 0x65, 0x79]
  algorithm := .sha256
  encoding := .base64
  layout := [.expiresSeconds, .issuedNanos]
  delimiter := ","
  maxAge := some ⟨60, 0⟩

/-- A request with a token that was issued at the epoch, for twenty seconds. -/
def briefRequest : HeaderSet := HeaderSet.empty.set "x-token" (briefScheme.issue "20,0")

/-- The payload grants the request in its first seconds. -/
theorem grants_brief : briefScheme.Grants "20,0" [(.expiresSeconds, "20"), (.issuedNanos, "0")]
    briefRequest ⟨10, 999999999⟩ where
  nonempty := by decide
  values := by decide +kernel
  layout := rfl
  timestamps := by decide +kernel
  bound := by simp [PayloadField.Bound]
  fresh := by
    have hexpires : Text.int64? "20" = some 20 := by decide +kernel
    have hissued : Text.int64? "0" = some 0 := by decide +kernel
    simp only [List.forall_mem_cons, List.not_mem_nil, false_implies, implies_true, and_true]
    exact ⟨(SymmetricScheme.fresh_iff .expiresSeconds hexpires).2 (by decide),
      (SymmetricScheme.fresh_iff .issuedNanos hissued).2 (by decide)⟩

/-- The token was accepted in its first seconds, is refused when nanoseconds have reached their
greatest number, and so is not accepted any more. -/
theorem validate_of_le_brief :
    Instant.epoch ≤ ⟨10, 999999999⟩ ∧ (⟨10, 999999999⟩ : Instant) ≤ ⟨10000000000, 0⟩ ∧
      ¬ (⟨10, 999999999⟩ : Instant).Overruns ⟨10000000000, 0⟩ ∧
      (symmetric briefScheme).validate briefRequest ⟨10, 999999999⟩ = .ok () ∧
      (symmetric briefScheme).validate briefRequest ⟨10000000000, 0⟩ = .error .expired ∧
      ((symmetric briefScheme).validate briefRequest ⟨10, 999999999⟩ = .error .expired →
        (symmetric briefScheme).validate briefRequest ⟨10000000000, 0⟩ = .error .expired) := by
  have hepoch : Instant.epoch ≤ ⟨10, 999999999⟩ := by decide
  have hlater : (⟨10, 999999999⟩ : Instant) ≤ ⟨10000000000, 0⟩ := by decide
  have hruns : ¬ (⟨10, 999999999⟩ : Instant).Overruns ⟨10000000000, 0⟩ := by decide
  have htoken : briefScheme.source.extract briefRequest = .ok (briefScheme.issue "20,0") :=
    TokenSource.Places.extract (.bare ⟨by decide, by decide, by decide⟩)
      (briefScheme.isPortable_issue rfl "20,0")
  have hexpires : Text.int64? "20" = some 20 := by decide +kernel
  have hstale : ¬ briefScheme.Fresh ⟨10000000000, 0⟩ (.expiresSeconds, "20") := by
    rw [SymmetricScheme.fresh_iff .expiresSeconds hexpires]
    decide
  refine ⟨hepoch, hlater, hruns, ?_, ?_, ((validate_of_le (symmetric briefScheme) briefRequest
    hepoch hlater).1 fun h => hruns h.2).2⟩
  · rw [validate_symmetric htoken]
    exact grants_brief.validate
  · rw [validate_symmetric htoken]
    exact grants_brief.validate_expired List.mem_cons_self hstale

/-! ## Leap seconds -/

/-- A scheme with a time of expiry in nanoseconds. -/
def preciseScheme : SymmetricScheme where
  source := .header "x-token" none
  secret := [0x53]
  algorithm := .sha256
  encoding := .base64
  layout := [.expiresNanos]
  delimiter := ","
  maxAge := none

/-- A request with a token that is good up to a nanosecond. -/
def preciseRequest (n : Nat) : HeaderSet :=
  HeaderSet.empty.set "x-token" (preciseScheme.issue (Nat.repr n))

/-- The token says up to when it is good. -/
theorem reads_precise {n : Nat} (hn : n ≤ Text.int64Max) :
    preciseScheme.Reads (preciseScheme.issue (Nat.repr n))
      ⟨Nat.repr n, Digest.Hmac.sign .sha256 [0x53] (Utf8.encode (Nat.repr n))⟩
      [(.expiresNanos, Nat.repr n)] where
  parse := SignedPayload.parse_sign (by simp) _ _ _
  values := by
    have hcomma : ',' ∉ (Nat.repr n).toList := by
      intro hmem
      rw [Nat.repr, String.toList_ofList] at hmem
      exact absurd (Nat.isDigit_of_mem_toDigits (by decide) (by decide) hmem) (by decide)
    have hdelimiter : preciseScheme.delimiter.toList = ',' :: [] := rfl
    exact (Text.splitText_of_not_mem hdelimiter hcomma).symm
  layout := rfl
  timestamps := by simp [Text.int64?_repr hn]

/-- The token is accepted up to its nanosecond, and has expired where the clock is past it. -/
theorem validate_preciseRequest {n : Nat} (hn : n ≤ Text.int64Max) (now : Instant) :
    (symmetric preciseScheme).validate (preciseRequest n) now =
      if Resolution.nanos.clock now ≤ n then .ok () else .error .expired := by
  have htoken : preciseScheme.source.extract (preciseRequest n) =
      .ok (preciseScheme.issue (Nat.repr n)) :=
    TokenSource.Places.extract (.bare ⟨by decide, by decide, by decide⟩)
      (preciseScheme.isPortable_issue rfl _)
  have hfresh : (∀ e ∈ [(PayloadField.expiresNanos, Nat.repr n)], preciseScheme.Fresh now e) ↔
      Resolution.nanos.clock now ≤ n := by
    rw [List.forall_mem_singleton, SymmetricScheme.fresh_iff .expiresNanos (Text.int64?_repr hn)]
    exact decide_eq_true_iff
  have hverdict := (reads_precise hn).validate_iff (preciseRequest n) now
  simp only [List.forall_mem_singleton, PayloadField.Bound, true_and] at hverdict hfresh
  rw [validate_symmetric htoken]
  split
  · next hclock => exact hverdict.1.2 ⟨rfl, hfresh.2 hclock⟩
  · next hclock => exact hverdict.2.2.2.2.2 ⟨rfl, mt hfresh.1 hclock⟩

/-- **Wherever an instant overruns a later one, some token has expired at the first and is accepted
at the second**: one that is good up to the nanosecond of the second. -/
theorem exists_revived (hepoch : .epoch ≤ t) (h : t ≤ u) (hruns : t.Overruns u) :
    ∃ (scheme : TokenScheme) (headers : HeaderSet), scheme.CountsNanos ∧
      scheme.validate headers t = .error .expired ∧ scheme.validate headers u = .ok () := by
  have hlater := le_trans hepoch h
  obtain ⟨n, hn⟩ := Int.eq_ofNat_of_zero_le (Instant.totalNanos_nonneg hlater)
  obtain ⟨hnanos, hmax⟩ := hruns
  rw [hn] at hnanos hmax
  have hpast : ¬ Resolution.nanos.clock t ≤ n := by
    rw [Resolution.clock_nanos hepoch, not_le]
    exact lt_min hnanos hmax
  have hgood : Resolution.nanos.clock u ≤ n := by
    rw [Resolution.clock_nanos hlater, hn]
    exact min_le_left _ _
  refine ⟨symmetric preciseScheme, preciseRequest n, ?_, ?_, ?_⟩
  · exact ⟨.expiresNanos, List.mem_cons_self, .zero, .expiresAt, .expiresNanos⟩
  · rw [validate_preciseRequest hmax.le, if_neg hpast]
  · rw [validate_preciseRequest hmax.le, if_pos hgood]

/-- A token that is good up to the middle of the first second of 2017 is refused near the end of the
leap second before it, and accepted a tenth of a second later. -/
theorem validate_leapSecond :
    Instant.epoch ≤ ⟨1483228799, 1900000000⟩ ∧
      (⟨1483228799, 1900000000⟩ : Instant) ≤ ⟨1483228800, 0⟩ ∧
      (symmetric preciseScheme).validate (preciseRequest 1483228800500000000)
        ⟨1483228799, 1900000000⟩ = .error .expired ∧
      (symmetric preciseScheme).validate (preciseRequest 1483228800500000000)
        ⟨1483228800, 0⟩ = .ok () := by
  have hexpires : (1483228800500000000 : Nat) ≤ Text.int64Max := by decide
  refine ⟨by decide, by decide, ?_, ?_⟩
  · rw [validate_preciseRequest hexpires, if_neg (by decide)]
  · rw [validate_preciseRequest hexpires, if_pos (by decide)]

end TokenScheme

end ProxyFilter
