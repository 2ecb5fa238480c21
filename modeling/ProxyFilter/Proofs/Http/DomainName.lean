import ProxyFilter.Http.DomainName
import ProxyFilter.Proofs.Failure
import ProxyFilter.Proofs.Text.Ascii
import ProxyFilter.Proofs.Text.Split

/-!
# Domains in ASCII

What a domain is brought to has characters of ASCII only, and none that a domain must not have
(`DomainName.isAllowed_of_toAscii?`): a label either is made of such characters or is encoded in
letters, digits and hyphens. Letter case does not matter (`DomainName.toAscii?_map_toLower`).
-/

namespace ProxyFilter

/-! ## Encoded labels -/

namespace Punycode

/-- The characters are digits of an encoded name. -/
def AreDigits (cs : List Char) : Prop := ∀ c ∈ cs, ∃ n < 36, c = digit n

/-- A digit below the threshold ends a number, and one above it is below the base. -/
theorem threshold_bounds (k bias : Nat) : 1 ≤ threshold k bias ∧ threshold k bias ≤ 26 := by
  simp only [threshold]
  split
  · omega
  · split <;> omega

/-- A number is written in digits. -/
theorem areDigits_numberDigits (bias fuel position n : Nat) :
    AreDigits (numberDigits bias fuel position n) := by
  induction fuel generalizing position n with
  | zero => exact fun c hc => absurd hc List.not_mem_nil
  | succ fuel ih =>
    obtain ⟨hlow, hhigh⟩ := threshold_bounds position bias
    simp only [numberDigits]
    split
    · next hn =>
      intro c hc
      exact ⟨n, by omega, List.mem_singleton.1 hc⟩
    · intro c hc
      rcases List.mem_cons.1 hc with rfl | hc
      · have hmod := Nat.mod_lt (n - threshold position bias)
          (show 0 < 36 - threshold position bias by omega)
        exact ⟨_, by omega, rfl⟩
      · exact ih _ _ c hc

/-- A round for one character writes digits. -/
theorem areDigits_pass {s : EncodeState} (code : Nat) (cs : List Char) (h : AreDigits s.out) :
    AreDigits (cs.foldl (EncodeState.pass code) s).out := by
  induction cs generalizing s with
  | nil => exact h
  | cons c cs ih =>
    refine ih ?_
    simp only [EncodeState.pass]
    split
    · exact h
    · split
      · intro d hd
        exact (List.mem_append.1 hd).elim (h d) (areDigits_numberDigits _ _ _ _ d)
      · exact h

/-- All rounds write digits. -/
theorem areDigits_rounds {s : EncodeState} (cs : List Char) (next : Nat) (codes : List Nat)
    (h : AreDigits s.out) : AreDigits (rounds cs next s codes).out := by
  induction codes generalizing next s with
  | nil => exact h
  | cons code codes ih => exact ih _ (areDigits_pass code cs h)

/-- An encoded name has characters of the name, hyphens and digits, all of them in ASCII. -/
theorem mem_encode {cs : List Char} {c : Char} (hc : c ∈ encode cs) :
    (c ∈ cs ∧ c.toNat < 128) ∨ c = '-' ∨ ∃ n < 36, c = digit n := by
  simp only [encode, List.mem_append] at hc
  rcases hc with hc | hc
  · split at hc
    · cases hc
    · rcases List.mem_append.1 hc with hc | hc
      · obtain ⟨hmem, hlt⟩ := List.mem_filter.1 hc
        exact .inl ⟨hmem, by simpa using hlt⟩
      · exact .inr (.inl (List.mem_singleton.1 hc))
  · have hdigits := areDigits_rounds cs 128
      (((cs.map Char.toNat).filter (128 ≤ ·)).eraseDups.mergeSort)
      (s := ⟨[], 0, 72, (cs.filter (·.toNat < 128)).length, true⟩) (by simp [AreDigits])
    exact .inr (.inr (hdigits c hc))

end Punycode

namespace DomainName

variable {label name domain : List Char} {c : Char}

/-! ## Characters -/

/-- A character that a domain may have once it is in ASCII. -/
def IsAllowed (c : Char) : Prop := c.toNat < 128 ∧ isForbidden c = false

/-- Hexadecimal digits may stand in a domain. -/
theorem isAllowed_of_isHexDigit (hc : Ascii.isHexDigit c = true) : IsAllowed c :=
  ⟨Ascii.lt_of_isHexDigit hc,
    Ascii.of_isHexDigit (P := fun c => isForbidden c = false) (by decide +kernel) hc⟩

/-- The digits of an encoded label may stand in a domain. -/
theorem isAllowed_digit {n : Nat} (hn : n < 36) : IsAllowed (Punycode.digit n) := by
  have hall : ∀ n < 36, (Punycode.digit n).toNat < 128 ∧
      isForbidden (Punycode.digit n) = false := by
    decide +kernel
  exact hall n hn

/-- The mark of an encoded label may stand in a domain. -/
theorem isAllowed_encodedMark : ∀ c ∈ Label.encodedMark, IsAllowed c := by
  have hall : Label.encodedMark.all (fun c => decide (c.toNat < 128) && ! isForbidden c) =
      true := by
    decide +kernel
  simpa [IsAllowed] using hall

/-- An encoded label is the mark and digits in ASCII. -/
theorem Label.decode?_eq_some {digits : List Char} {l : Label} (h : decode? digits = some l) :
    l.ascii = encodedMark ++ digits ∧ ∀ c ∈ digits, c.toNat < 128 := by
  simp only [decode?] at h
  split at h
  · cases h
  · next hdigits =>
    obtain ⟨shown, -, h⟩ := Option.bind_eq_some_iff.1 h
    split at h
    · cases h
    · cases h
      simp only [Bool.or_eq_true, List.any_eq_true, decide_eq_true_eq, not_or, not_exists,
        not_and, not_le] at hdigits
      exact ⟨rfl, hdigits.2⟩

/-- A label in ASCII has no character that a domain must not have, if the label has none. -/
theorem isAllowed_of_parse? {l : Label} (h : Label.parse? label = some l)
    (hlabel : ∀ c ∈ label, isForbidden c = false) : ∀ c ∈ l.ascii, IsAllowed c := by
  simp only [Label.parse?] at h
  split at h
  · obtain ⟨hascii, hdigits⟩ := Label.decode?_eq_some h
    intro c hc
    rw [hascii] at hc
    rcases List.mem_append.1 hc with hc | hc
    · exact isAllowed_encodedMark c hc
    · exact ⟨hdigits c hc, hlabel c (List.mem_of_mem_drop hc)⟩
  · split at h
    · next hascii =>
      cases h
      simp only [List.all_eq_true, decide_eq_true_eq] at hascii
      exact fun c hc => ⟨hascii c hc, hlabel c hc⟩
    · split at h
      · cases h
        intro c hc
        rcases List.mem_append.1 hc with hc | hc
        · exact isAllowed_encodedMark c hc
        · rcases Punycode.mem_encode hc with ⟨hc, hlt⟩ | rfl | ⟨n, hn, rfl⟩
          · exact ⟨hlt, hlabel c hc⟩
          · exact ⟨by decide, by decide⟩
          · exact isAllowed_digit hn
      · cases h

/-- **A domain in ASCII has no character that a domain must not have.** -/
theorem isAllowed_of_toAscii? (h : toAscii? name = some domain) : ∀ c ∈ domain, IsAllowed c := by
  obtain ⟨mapped, -, h⟩ := Option.bind_eq_some_iff.1 h
  split at h
  · cases h
  · next hmapped =>
    obtain ⟨labels, hlabels, h⟩ := Option.bind_eq_some_iff.1 h
    split at h
    · cases h
    · cases h
      simp only [List.any_eq_true, not_exists, not_and, Bool.not_eq_true] at hmapped
      intro c hc
      rcases Text.mem_intercalate hc with hc | ⟨ascii, hascii, hc⟩
      · rw [List.mem_singleton.1 hc]
        exact ⟨by decide, by decide⟩
      · obtain ⟨l, hl, rfl⟩ := List.mem_map.1 hascii
        obtain ⟨label, hlabel, hparse⟩ := Option.exists_of_mem_mapM hlabels hl
        exact isAllowed_of_parse? hparse
          (fun d hd => hmapped d (Text.mem_of_mem_splitOn hlabel hd)) c hc

/-! ## Letter case -/

/-- A code point becomes the same in either letter case. -/
theorem mapCode?_toLower (c : Char) : mapCode? c.toLower.toNat = mapCode? c.toNat :=
  Ascii.toLower_invariant (fun c => mapCode? c.toNat) (by decide +kernel) c

/-- **A name is brought to ASCII in either letter case.** -/
theorem toAscii?_map_toLower (name : List Char) :
    toAscii? (name.map Char.toLower) = toAscii? name := by
  have hmapped : mapped? (name.map Char.toLower) = mapped? name := by
    simp only [mapped?, List.mapM_map]
    congr 2
    exact funext mapCode?_toLower
  rw [toAscii?, hmapped, toAscii?]

end DomainName

end ProxyFilter
