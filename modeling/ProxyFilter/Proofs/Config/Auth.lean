import ProxyFilter.Config.Auth
import ProxyFilter.Proofs.Failure
import ProxyFilter.Proofs.Token.Ageing

/-!
# Schemes that are built

The settings of a scheme with a shared secret are checked once (`SymmetricSettings.build_eq_ok`),
and what validates tokens later relies on it. `SymmetricScheme.IsGuarded` names what it relies on,
and every scheme that is built has it (`SymmetricSettings.isGuarded_of_build`). So the age that
`SymmetricScheme.validate` takes where none is set is never the reason for a verdict
(`SymmetricScheme.IsGuarded.validate_withFallback`).
-/

namespace ProxyFilter

/-- A text of which no octet is written is empty. -/
theorem Utf8.eq_empty_of_encode {s : String} (h : encode s = []) : s = "" := by
  have hdecode := decode?_encode s
  rw [h] at hdecode
  exact (Option.some.inj hdecode).symm

namespace PayloadField
variable {field : PayloadField}

/-- The value of the field says when the token was issued, and limits its life by an age. -/
def IsIssueTime (field : PayloadField) : Prop :=
  ∃ maxAge resolution, field.Limits maxAge resolution (.issuedAt maxAge)

/-- The fields that need an allowed age are times of issue. -/
theorem isIssueTime_iff : field.IsIssueTime ↔ field.isIssueTime = true := by
  constructor
  · rintro ⟨maxAge, resolution, hlimits⟩
    cases hlimits <;> rfl
  · intro hissue
    cases field <;> cases hissue
    · exact ⟨.zero, .seconds, .issuedSeconds⟩
    · exact ⟨.zero, .nanos, .issuedNanos⟩

end PayloadField

namespace SymmetricScheme
variable {scheme : SymmetricScheme}

/-- What keeps a scheme with a shared secret from letting tokens of others in: there is a secret,
there are fields and there is something between them, a weak digest comes with a timestamp, and a
time of issue with an age. -/
structure IsGuarded (scheme : SymmetricScheme) : Prop where
  secret : scheme.secret ≠ []
  layout : scheme.layout ≠ []
  delimiter : scheme.delimiter ≠ ""
  timestamp : scheme.algorithm = .md5 → ∃ field ∈ scheme.layout, field.IsTimestamp
  age : ∀ field ∈ scheme.layout, field.IsIssueTime → ∃ age, scheme.maxAge = some age

/-- The scheme with `fallback` as the age of tokens, where it has none. -/
def withFallback (scheme : SymmetricScheme) (fallback : Duration) : SymmetricScheme :=
  { scheme with maxAge := some (scheme.maxAge.getD fallback) }

/-- A guarded scheme limits the life of tokens by the age that is set, if by any. -/
theorem IsGuarded.rule_withFallback (h : scheme.IsGuarded) (fallback : Duration)
    {field : PayloadField} (hfield : field ∈ scheme.layout) :
    (scheme.withFallback fallback).rule field = scheme.rule field := by
  unfold rule
  by_cases hissue : field.isIssueTime = true
  · obtain ⟨age, hage⟩ := h.age field hfield (PayloadField.isIssueTime_iff.2 hissue)
    rw [if_pos hissue, if_pos hissue, withFallback, hage]
    rfl
  · rw [if_neg hissue, if_neg hissue]

/-- **No verdict of a guarded scheme rests on the age that is taken where none is set**: with any
other one it is the same. -/
theorem IsGuarded.validate_withFallback (h : scheme.IsGuarded) (fallback : Duration) (raw : String)
    (headers : HeaderSet) (now : Instant) :
    (scheme.withFallback fallback).validate raw headers now = scheme.validate raw headers now := by
  have htimeless : (scheme.withFallback fallback).checkTimeless raw headers =
      scheme.checkTimeless raw headers := rfl
  rw [validate_eq_bind, validate_eq_bind, htimeless]
  cases hfound : scheme.checkTimeless raw headers with
  | error e => rfl
  | ok found =>
    have hfresh : found.all ((scheme.withFallback fallback).isFresh now) =
        found.all (scheme.isFresh now) := by
      rw [Bool.eq_iff_iff, List.all_eq_true, List.all_eq_true]
      refine forall₂_congr fun s hs => ?_
      have hfield := (limits_of_checkTimeless hfound hs).1
      rw [isFresh, isFresh, h.rule_withFallback fallback hfield]
    change (if _ then _ else _) = (if _ then _ else _)
    rw [hfresh]

end SymmetricScheme

namespace SymmetricSettings
variable {s : SymmetricSettings} {scheme : SymmetricScheme}

/-- Settings that are accepted passed every check, and the scheme has what is configured. -/
theorem build_eq_ok (h : s.build = .ok scheme) :
    s.secret ≠ "" ∧ s.layout ≠ [] ∧ s.delimiter ≠ "" ∧
      (s.algorithm = .md5 → s.layout.any PayloadField.isTimestamp = true) ∧
      ∃ age, s.age = .ok age ∧ (age = none → s.layout.any PayloadField.isIssueTime = false) ∧
        scheme = ⟨s.source, Utf8.encode s.secret, s.algorithm, s.encoding, s.layout, s.delimiter,
          age⟩ := by
  unfold build at h
  extract_lets at h
  obtain ⟨hsecret, h⟩ := Except.throwIf_eq_ok h
  obtain ⟨hlayout, h⟩ := Except.throwIf_eq_ok h
  obtain ⟨hdelimiter, h⟩ := Except.throwIf_eq_ok h
  obtain ⟨hdigest, h⟩ := Except.throwIf_eq_ok h
  obtain ⟨age, hage, h⟩ := Except.bind_eq_ok h
  obtain ⟨hissue, h⟩ := Except.throwIf_eq_ok h
  cases h
  refine ⟨by simpa using hsecret, by simpa using hlayout, by simpa using hdelimiter, ?_, age, hage,
    ?_, rfl⟩
  · intro hmd5
    simpa [hmd5] using hdigest
  · rintro rfl
    simpa using hissue

/-- **Every scheme that is built is guarded.** -/
theorem isGuarded_of_build (h : s.build = .ok scheme) : scheme.IsGuarded := by
  obtain ⟨hsecret, hlayout, hdelimiter, hdigest, age, -, hissue, rfl⟩ := build_eq_ok h
  refine ⟨mt Utf8.eq_empty_of_encode hsecret, hlayout, hdelimiter, ?_, ?_⟩
  · intro hmd5
    obtain ⟨field, hfield, htimestamp⟩ := List.any_eq_true.1 (hdigest hmd5)
    exact ⟨field, hfield, PayloadField.isTimestamp_iff.2 htimestamp⟩
  · intro field hfield hfieldIssue
    refine Option.ne_none_iff_exists'.1 fun hnone => ?_
    have hany : s.layout.any PayloadField.isIssueTime = true :=
      List.any_eq_true.2 ⟨field, hfield, PayloadField.isIssueTime_iff.1 hfieldIssue⟩
    rw [hissue hnone] at hany
    cases hany

end SymmetricSettings

end ProxyFilter
