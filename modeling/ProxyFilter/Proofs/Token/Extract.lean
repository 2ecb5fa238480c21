import ProxyFilter.Proofs.Text.Ascii
import ProxyFilter.Proofs.Token.Source

/-!
# Credentials that are missing, and credentials of another form

A request without a credential is to be told apart from one whose credential has another form than
the source asks for. `TokenSource.Lacks` says that there is none: no value, or one with nothing in
it. `TokenSource.IsUnexpected` says that a header begins with another scheme word, or with none.
What else a request has is a token, and not an empty one (`TokenSource.Holds`).

`TokenSource.extract` does so but for headers that hold the scheme word alone, or only blanks. A
value is trimmed before the space after its word is looked for, so there is none to be found, and
the word is taken for an unexpected one (`TokenSource.IsWordless`, `TokenSource.extract_wordOnly`).
`TokenSource.extract_verdict` says what becomes of every request.
-/

namespace ProxyFilter.TokenSource

/-! ## What a request has under a source -/

/-- The first value under the name of a source. -/
def value? (headers : HeaderSet) : TokenSource → Option String
  | header name _ => headers.get? name
  | cookie name => headers.cookie? name
  | query name => (headers.get? Header.path).bind (Query.getParam? · name)

/-- The text is the word, in any letter case, then a space and `rest`. -/
def Follows (word text rest : String) : Prop :=
  ∃ first, text = first ++ " " ++ rest ∧ Ascii.sameName first word = true

/-- There is nothing in a value: in that of a header, no more than blanks and the scheme word. -/
def IsEmptyValue (value : String) : TokenSource → Prop
  | header _ none => Text.trim value = ""
  | header _ (some word) => Text.trim value = "" ∨ Ascii.sameName (Text.trim value) word = true
  | cookie _ | query _ => value = ""

/-- The token in a value. -/
def Holds (value token : String) : TokenSource → Prop
  | header _ none => token = Text.trim value
  | header _ (some word) => ∃ rest, Follows word (Text.trim value) rest ∧ token = Text.trim rest
  | cookie _ | query _ => token = value

/-- The credential is absent or empty. -/
def Lacks (source : TokenSource) (headers : HeaderSet) : Prop :=
  ∀ value, source.value? headers = some value → source.IsEmptyValue value

/-- The header of the source is not blank, and does not begin with the scheme word and a space. -/
def IsUnexpected (source : TokenSource) (headers : HeaderSet) : Prop :=
  ∃ name word value, source = header name (some word) ∧ headers.get? name = some value ∧
    Text.trim value ≠ "" ∧ ∀ rest, ¬ Follows word (Text.trim value) rest

/-- There is nothing in the header of a source that asks for a scheme word. -/
def IsWordless (source : TokenSource) (headers : HeaderSet) : Prop :=
  ∃ name word value, source = header name (some word) ∧ headers.get? name = some value ∧
    source.IsEmptyValue value

/-- The scheme word of a source has no blanks. -/
def HasPlainWord (source : TokenSource) : Prop :=
  ∀ name word, source = header name (some word) → ∀ c ∈ word.toList, Text.isBlank c = false

/-! ## Scheme words -/

variable {word value token rest : String} {source : TokenSource} {headers : HeaderSet}

/-- A word without blanks is looked for before the first space. -/
theorem afterScheme?_eq_some (hword : ∀ c ∈ word.toList, Text.isBlank c = false) :
    afterScheme? word value = some token ↔
      ∃ rest, Follows word (Text.trim value) rest ∧ token = Text.trim rest := by
  constructor
  · intro h
    rw [afterScheme?] at h
    split at h
    · next first rest hcut =>
      obtain ⟨hsame, htoken⟩ := Option.ite_none_right_eq_some.1 h
      obtain ⟨-, htext⟩ := Text.splitOnce?_eq_some.1 hcut
      refine ⟨rest, ⟨first, ?_, hsame⟩, (Option.some.inj htoken).symm⟩
      rw [← String.toList_inj]
      simp [htext]
    · cases h
  · rintro ⟨rest, ⟨first, htext, hsame⟩, rfl⟩
    have hspace : ' ' ∉ first.toList := fun hmem =>
      absurd (hword ' ' (Ascii.mem_of_sameName (by decide) hsame hmem)) (by decide)
    have hcut : Text.splitOnce? ' ' (Text.trim value) = some (first, rest) :=
      Text.splitOnce?_eq_some.2 ⟨hspace, by simp [htext]⟩
    simp only [afterScheme?, hcut, hsame, if_true]

/-- What follows a space in a trimmed text is not blank. -/
theorem trim_ne_empty_of_follows (h : Follows word (Text.trim value) rest) :
    Text.trim rest ≠ "" := by
  obtain ⟨first, htext, -⟩ := h
  have hlist : (Text.trim value).toList = first.toList ++ ' ' :: rest.toList := by simp [htext]
  obtain ⟨c, hc, hsolid⟩ :=
    Text.exists_not_isBlank (Text.trim_trim value) hlist (List.cons_ne_nil _ _)
  intro hblank
  have hall : ∀ c ∈ ' ' :: rest.toList, Text.isBlank c = true :=
    List.forall_mem_cons.2 ⟨by decide, Text.trim_eq_empty_iff.1 hblank⟩
  rw [hall c hc] at hsolid
  cases hsolid

/-- A text that is the word alone does not begin with it and a space. -/
theorem not_follows_of_sameName (hword : ∀ c ∈ word.toList, Text.isBlank c = false)
    (hsame : Ascii.sameName value word = true) (rest : String) : ¬ Follows word value rest := by
  rintro ⟨first, rfl, -⟩
  have hmem : ' ' ∈ word.toList :=
    Ascii.mem_of_sameName (by decide) hsame (by simp)
  exact absurd (hword ' ' hmem) (by decide)

/-! ## What becomes of a request -/

/-- A request without a value has no credential. -/
theorem extract_of_value?_eq_none (h : source.value? headers = none) :
    source.extract headers = .error .missingCredential := by
  cases source with
  | header name scheme =>
    rw [value?] at h
    cases scheme <;> simp [extract, h, present]
  | cookie name =>
    rw [value?] at h
    simp [extract, h, present]
  | query name =>
    rw [value?] at h
    rw [extract, h, present]

/-- A header that does not begin with the scheme word and a space is malformed. -/
theorem extract_of_not_follows {name : String}
    (hword : ∀ c ∈ word.toList, Text.isBlank c = false) (h : headers.get? name = some value)
    (hother : ∀ rest, ¬ Follows word (Text.trim value) rest) :
    (header name (some word)).extract headers =
      .error (.malformedToken "unexpected authorization scheme") := by
  have hnone : afterScheme? word value = none := by
    refine Option.eq_none_iff_forall_ne_some.2 fun token htoken => ?_
    obtain ⟨rest, hfollows, -⟩ := (afterScheme?_eq_some hword).1 htoken
    exact hother rest hfollows
  simp only [extract, h, hnone]

/-- A header with an unexpected scheme word is malformed. -/
theorem extract_of_isUnexpected (hword : source.HasPlainWord) (h : source.IsUnexpected headers) :
    source.extract headers = .error (.malformedToken "unexpected authorization scheme") := by
  obtain ⟨name, word, value, rfl, hvalue, -, hother⟩ := h
  exact extract_of_not_follows (hword name word rfl) hvalue hother

/-- A header with nothing but the scheme word is taken for a malformed one. -/
theorem extract_of_isWordless (hword : source.HasPlainWord) (h : source.IsWordless headers) :
    source.extract headers = .error (.malformedToken "unexpected authorization scheme") := by
  obtain ⟨name, word, value, rfl, hvalue, hempty⟩ := h
  refine extract_of_not_follows (hword name word rfl) hvalue fun rest hfollows => ?_
  rcases hempty with hblank | hsame
  · obtain ⟨first, htext, -⟩ := hfollows
    rw [hblank] at htext
    exact absurd htext.symm (by simp)
  · exact not_follows_of_sameName (hword name word rfl) hsame rest hfollows

/-- A credential that is absent or empty is missing, other than after a scheme word. -/
theorem extract_of_lacks (h : source.Lacks headers) (hword : ¬ source.IsWordless headers) :
    source.extract headers = .error .missingCredential := by
  cases hvalue : source.value? headers with
  | none => exact extract_of_value?_eq_none hvalue
  | some value =>
    have hempty := h value hvalue
    cases source with
    | header name scheme =>
      rw [value?] at hvalue
      cases scheme with
      | none =>
        have hblank : Text.trim value = "" := hempty
        simp [extract, hvalue, present, nonEmpty, hblank]
      | some word => exact absurd ⟨name, word, value, rfl, hvalue, hempty⟩ hword
    | cookie name | query name =>
      rw [value?] at hvalue
      obtain rfl : value = "" := hempty
      simp [extract, hvalue, present, nonEmpty]

/-- Every other request has a token. -/
theorem exists_holds (h : ¬ source.Lacks headers) (hword : ¬ source.IsUnexpected headers) :
    ∃ value token, source.value? headers = some value ∧ source.Holds value token ∧ token ≠ "" := by
  obtain ⟨value, hvalue, hfull⟩ : ∃ value, source.value? headers = some value ∧
      ¬ source.IsEmptyValue value := by simpa [Lacks] using h
  refine ⟨value, ?_⟩
  cases source with
  | header name scheme =>
    cases scheme with
    | none => exact ⟨_, hvalue, rfl, hfull⟩
    | some word =>
      obtain ⟨rest, hfollows⟩ : ∃ rest, Follows word (Text.trim value) rest := by
        by_contra hnone
        exact hword ⟨name, word, value, rfl, hvalue, fun hblank => hfull (.inl hblank),
          fun rest hfollows => hnone ⟨rest, hfollows⟩⟩
      exact ⟨_, hvalue, ⟨rest, hfollows, rfl⟩, trim_ne_empty_of_follows hfollows⟩
  | cookie name | query name => exact ⟨_, hvalue, rfl, hfull⟩

/-- A token that a value holds is extracted if it is not empty. -/
theorem extract_of_holds (hword : source.HasPlainWord) (h : source.value? headers = some value)
    (hholds : source.Holds value token) (hne : token ≠ "") :
    source.extract headers = .ok token := by
  cases source with
  | header name scheme =>
    rw [value?] at h
    cases scheme with
    | none =>
      obtain rfl := hholds
      simp [extract, h, present, nonEmpty, hne]
    | some word =>
      have hafter := (afterScheme?_eq_some (hword name word rfl)).2 hholds
      simp [extract, h, hafter, nonEmpty, hne]
  | cookie name | query name =>
    rw [value?] at h
    obtain rfl := hholds
    simp [extract, h, present, nonEmpty, hne]

/-- A request that has a credential, and not an unexpected one, has its token extracted. -/
theorem exists_extract_eq_ok (hword : source.HasPlainWord) (hlacks : ¬ source.Lacks headers)
    (hexpected : ¬ source.IsUnexpected headers) :
    ∃ value token, source.value? headers = some value ∧ source.Holds value token ∧ token ≠ "" ∧
      source.extract headers = .ok token := by
  obtain ⟨value, token, hvalue, hholds, hne⟩ := exists_holds hlacks hexpected
  exact ⟨value, token, hvalue, hholds, hne, extract_of_holds hword hvalue hholds hne⟩

/-- Each request has one of three verdicts. -/
theorem extract_cases (headers : HeaderSet) (hword : source.HasPlainWord) :
    ((source.Lacks headers ∧ ¬ source.IsWordless headers) ∧
        source.extract headers = .error .missingCredential) ∨
      ((source.IsUnexpected headers ∨ source.IsWordless headers) ∧
        source.extract headers = .error (.malformedToken "unexpected authorization scheme")) ∨
      ∃ token, source.extract headers = .ok token := by
  by_cases hwordless : source.IsWordless headers
  · exact .inr (.inl ⟨.inr hwordless, extract_of_isWordless hword hwordless⟩)
  by_cases hlacks : source.Lacks headers
  · exact .inl ⟨⟨hlacks, hwordless⟩, extract_of_lacks hlacks hwordless⟩
  by_cases hunexpected : source.IsUnexpected headers
  · exact .inr (.inl ⟨.inl hunexpected, extract_of_isUnexpected hword hunexpected⟩)
  · obtain ⟨value, token, -, -, -, hok⟩ := exists_extract_eq_ok hword hlacks hunexpected
    exact .inr (.inr ⟨token, hok⟩)

/-- **A credential is missing just where it is absent or empty, malformed just where a header does
not begin with the scheme word and a space, and otherwise a token that is not empty. Of a header
with nothing but blanks or the scheme word, it is said to be malformed and not missing.** -/
theorem extract_verdict (source : TokenSource) (headers : HeaderSet)
    (hword : source.HasPlainWord) :
    (source.extract headers = .error .missingCredential ↔
      source.Lacks headers ∧ ¬ source.IsWordless headers) ∧
    (source.extract headers = .error (.malformedToken "unexpected authorization scheme") ↔
      source.IsUnexpected headers ∨ source.IsWordless headers) ∧
    (¬ source.Lacks headers → ¬ source.IsUnexpected headers → ∃ value token,
      source.value? headers = some value ∧ source.Holds value token ∧ token ≠ "" ∧
      source.extract headers = .ok token) := by
  refine ⟨⟨fun h => ?_, fun ⟨hlacks, hother⟩ => extract_of_lacks hlacks hother⟩,
    ⟨fun h => ?_, ?_⟩, exists_extract_eq_ok hword⟩
  · rcases extract_cases headers hword with ⟨hmissing, -⟩ | ⟨-, hverdict⟩ | ⟨token, hverdict⟩
    · exact hmissing
    · cases h.symm.trans hverdict
    · cases h.symm.trans hverdict
  · rcases extract_cases headers hword with ⟨-, hverdict⟩ | ⟨hmalformed, -⟩ | ⟨token, hverdict⟩
    · cases h.symm.trans hverdict
    · exact hmalformed
    · cases h.symm.trans hverdict
  · rintro (hunexpected | hwordless)
    · exact extract_of_isUnexpected hword hunexpected
    · exact extract_of_isWordless hword hwordless

/-- A source that asks for a scheme word. -/
def bearerSource : TokenSource := header "authorization" (some "Bearer")

/-- The word of this source has no blanks. -/
theorem hasPlainWord_bearerSource : bearerSource.HasPlainWord := by
  intro name word hsource
  cases hsource
  simp [Text.isBlank]

/-- A request with one header under the name of this source. -/
def authorized (value : String) : HeaderSet := .ofPairs [("Authorization", value)]

/-- A token is found behind blanks and a word in the other letter case. -/
theorem extract_verdict_bearer :
    bearerSource.HasPlainWord ∧ ¬ bearerSource.Lacks (authorized " bearer  abc ") ∧
    ¬ bearerSource.IsUnexpected (authorized " bearer  abc ") ∧
    ∃ value, bearerSource.value? (authorized " bearer  abc ") = some value ∧
      bearerSource.Holds value "abc" ∧
      bearerSource.extract (authorized " bearer  abc ") = .ok "abc" := by
  have hlacks : ¬ bearerSource.Lacks (authorized " bearer  abc ") := by
    intro hlacks
    rcases hlacks " bearer  abc " rfl with hblank | hsame
    · exact absurd hblank (by decide)
    · exact absurd hsame (by decide)
  have hexpected : ¬ bearerSource.IsUnexpected (authorized " bearer  abc ") := by
    rintro ⟨name, word, value, hsource, hvalue, -, hother⟩
    cases hsource
    cases hvalue
    exact hother " abc" ⟨"bearer", by decide, by decide⟩
  have hread : bearerSource.extract (authorized " bearer  abc ") = .ok "abc" := by decide
  obtain ⟨value, token, hvalue, hholds, -, hok⟩ :=
    (extract_verdict bearerSource _ hasPlainWord_bearerSource).2.2 hlacks hexpected
  cases hread.symm.trans hok
  exact ⟨hasPlainWord_bearerSource, hlacks, hexpected, value, hvalue, hholds, hread⟩

/-- The scheme word alone is no token, and is not said to be missing. -/
theorem extract_wordOnly :
    bearerSource.HasPlainWord ∧ bearerSource.Lacks (authorized "Bearer ") ∧
    bearerSource.extract (authorized "Bearer ") =
      .error (.malformedToken "unexpected authorization scheme") ∧
    bearerSource.extract (authorized "Bearer ") ≠ .error .missingCredential := by
  refine ⟨hasPlainWord_bearerSource, ?_, by decide, by decide⟩
  intro value hvalue
  cases hvalue
  exact .inr (by decide)

end ProxyFilter.TokenSource
