import ProxyFilter.Proofs.Token.Parse
import ProxyFilter.Proofs.Token.Source
import ProxyFilter.Token.Scheme

/-!
# Tokens that are issued and accepted

A token is read as its payload says (`SymmetricScheme.Grants.reads`), and one in base64 has none of
the characters at which a source cuts or trims (`TokenSource.IsPortable`,
`SignedPayload.isPortable_sign`). `TokenSource.Places` says how a request is given a token: the
source takes it from there unchanged (`TokenSource.Places.extract`), and the request says the same
to the bindings of a payload as before (`TokenSource.Places.bound`). So a token that is signed for a
request is accepted with it, wherever it travels (`TokenScheme.validate_issued`).
-/

namespace ProxyFilter

/-! ## The text of a token -/

/-- A text that travels unchanged in every source. -/
structure TokenSource.IsPortable (token : String) : Prop where
  nonempty : token ≠ ""
  noBlank : ∀ c ∈ token.toList, Text.isBlank c = false
  noSemicolon : ';' ∉ token.toList

namespace SignedPayload

variable {secret : Bytes} {payload : String} {algorithm : Digest.Algorithm}

/-- A token in base64 has no character at which a source trims or cuts. -/
theorem forall_mem_sign (secret : Bytes) (payload : String) (algorithm : Digest.Algorithm) :
    ∀ c ∈ (sign secret payload algorithm .base64).toList, Text.isBlank c = false ∧ c ≠ ';' := by
  intro c hc
  simp only [sign, String.toList_append, List.mem_append] at hc
  rcases hc with (hc | hc) | hc
  · exact (IsSpelling.standard.forall_mem_encode _ c hc).imp_right And.left
  · obtain rfl : c = '.' := by simpa using hc
    decide
  · exact (IsSpelling.standard.forall_mem_encode _ c hc).imp_right And.left

/-- A token in base64 travels unchanged in every source. -/
theorem isPortable_sign (secret : Bytes) (payload : String) (algorithm : Digest.Algorithm) :
    TokenSource.IsPortable (sign secret payload algorithm .base64) where
  nonempty := by simp [sign]
  noBlank c hc := (forall_mem_sign secret payload algorithm c hc).1
  noSemicolon hc := (forall_mem_sign secret payload algorithm _ hc).2 rfl

end SignedPayload

/-! ## The token of a request -/

namespace TokenSource

/-- The header is none that the fields of a payload are compared with. -/
structure IsUnbound (name : String) : Prop where
  forwardedFor : Ascii.sameName name Header.forwardedFor = false
  method : Ascii.sameName name Header.method = false
  path : Ascii.sameName name Header.path = false

/-- A request that is given a token where the source looks for it. -/
inductive Places (token : String) (headers : HeaderSet) : TokenSource → HeaderSet → Prop
  /-- The token is the value of a header. -/
  | bare {name : String} (hname : IsUnbound name) :
    Places token headers (.header name none) (headers.set name token)
  /-- The token follows a word and a space. -/
  | afterWord {name word : String} (hname : IsUnbound name) (hword : word ≠ "")
    (hblank : ∀ c ∈ word.toList, Text.isBlank c = false) :
    Places token headers (.header name (some word)) (headers.set name (word ++ " " ++ token))
  /-- The token is one of several cookies, of which no other goes by its name. -/
  | cookie {name : String} {before after : List String} (hkey : '=' ∉ name.toList)
    (hpiece : ';' ∉ name.toList) (htrim : Text.trim name = name)
    (hothers : ∀ cookie ∈ before ++ after, HeaderSet.IsOtherCookie name cookie) :
    Places token headers (.cookie name) (headers.set Header.cookie
      ("; ".intercalate (before ++ (name ++ "=" ++ token) :: after)))
  /-- The token is added to a path that has no parameter of its name. -/
  | query {name path : String} (hpath : headers.get? Header.path = some path)
    (habsent : Query.getParam? path name = none) :
    Places token headers (.query name)
      (headers.set Header.path (Query.addParam path name token))

variable {source : TokenSource} {token : String} {headers placed : HeaderSet}

/-- A text is present if it is not empty. -/
theorem present_eq_ok (h : token ≠ "") : present (some token) = .ok token := by
  simp [present, nonEmpty, h]

/-- A text that ends in a token ends in no blank. -/
theorem IsPortable.not_isBlank_getLast? (h : IsPortable token) (cs : List Char) (d : Char) :
    ∀ c ∈ (cs ++ d :: token.toList).getLast?, Text.isBlank c = false := by
  intro c hc
  rw [List.append_cons, List.getLast?_append_of_ne_nil _ (by simpa using h.nonempty)] at hc
  exact h.noBlank c (List.mem_of_getLast? hc)

/-- A token is found after the word it was put after. -/
theorem afterScheme?_join {word : String} (hword : word ≠ "")
    (hblank : ∀ c ∈ word.toList, Text.isBlank c = false) (htoken : IsPortable token) :
    afterScheme? word (word ++ " " ++ token) = some token := by
  have hlist : (word ++ " " ++ token).toList = word.toList ++ ' ' :: token.toList := by simp
  have hends : Text.trim (word ++ " " ++ token) = word ++ " " ++ token := by
    rw [Text.trim_eq_self_iff, hlist]
    refine ⟨fun c hc => ?_, htoken.not_isBlank_getLast? _ _⟩
    rw [List.head?_append_of_ne_nil _ (by simpa using hword)] at hc
    exact hblank c (List.mem_of_mem_head? hc)
  have hcut : Text.splitOnce? ' ' (word ++ " " ++ token) = some (word, token) :=
    Text.splitOnce?_eq_some.2 ⟨fun h => absurd (hblank ' ' h) (by decide), hlist⟩
  simp [afterScheme?, hends, hcut, Ascii.sameName, Text.trim_of_forall htoken.noBlank]

/-- A cookie that is a token is a piece of its own. -/
theorem isCookiePiece_join {name : String} (hpiece : ';' ∉ name.toList)
    (htrim : Text.trim name = name) (htoken : IsPortable token) :
    HeaderSet.IsCookiePiece (name ++ "=" ++ token) := by
  have hlist : (name ++ "=" ++ token).toList = name.toList ++ '=' :: token.toList := by simp
  refine ⟨by simp [hpiece, htoken.noSemicolon], ?_⟩
  rw [Text.trim_eq_self_iff] at htrim ⊢
  rw [hlist]
  refine ⟨fun c hc => ?_, htoken.not_isBlank_getLast? _ _⟩
  rw [List.head?_append] at hc
  cases hname : name.toList.head? with
  | none =>
    obtain rfl : '=' = c := by simpa [hname] using hc
    rfl
  | some d => exact htrim.1 c (by simpa [hname] using hc)

/-- **The source takes the token unchanged from the request it was given to.** -/
theorem Places.extract (h : Places token headers source placed) (htoken : IsPortable token) :
    source.extract placed = .ok token := by
  cases h with
  | bare hname =>
    rw [TokenSource.extract, HeaderSet.get?_set, Option.map_some,
      Text.trim_of_forall htoken.noBlank, present_eq_ok htoken.nonempty]
  | afterWord hname hword hblank =>
    simp only [TokenSource.extract, HeaderSet.get?_set, afterScheme?_join hword hblank htoken,
      nonEmpty, String.isEmpty_iff, htoken.nonempty, if_false]
  | cookie hkey hpiece htrim hothers =>
    rw [TokenSource.extract,
      HeaderSet.cookie?_set_join headers hkey (isCookiePiece_join hpiece htrim htoken) hothers,
      present_eq_ok htoken.nonempty]
  | query hpath habsent =>
    rw [TokenSource.extract, HeaderSet.get?_set, Option.bind_some,
      Query.getParam?_addParam habsent, present_eq_ok htoken.nonempty]

/-- Requests from one client, with one method and one path before the query, have the same
bindings. -/
theorem bound_of_get? (hclient : placed.get? Header.forwardedFor = headers.get? Header.forwardedFor)
    (hmethod : placed.get? Header.method = headers.get? Header.method)
    (hpath : (placed.get? Header.path).map (fun p => (Query.splitPath p).1) =
      (headers.get? Header.path).map fun p => (Query.splitPath p).1)
    {field : PayloadField} {value : String} (h : field.Bound headers value) :
    field.Bound placed value := by
  cases field with
  | clientIp =>
    simp only [PayloadField.Bound, HeaderSet.clientIp?, hclient] at h ⊢
    exact h
  | method =>
    simp only [PayloadField.Bound, hmethod] at h ⊢
    exact h
  | path =>
    simp only [PayloadField.Bound, ← Option.map_eq_some_iff] at h ⊢
    rw [hpath, h]
  | _ => trivial

/-- **What a payload is bound to is that of the request, also when it is given the token.** -/
theorem Places.bound (h : Places token headers source placed) {field : PayloadField}
    {value : String} (hbound : field.Bound headers value) : field.Bound placed value := by
  cases h with
  | bare hname | afterWord hname hword hblank =>
    refine bound_of_get? ?_ ?_ ?_ hbound
    · exact HeaderSet.get?_set_of_ne hname.forwardedFor headers _
    · exact HeaderSet.get?_set_of_ne hname.method headers _
    · rw [HeaderSet.get?_set_of_ne hname.path headers]
  | cookie hkey hpiece htrim hothers =>
    refine bound_of_get? ?_ ?_ ?_ hbound
    · exact HeaderSet.get?_set_of_ne (by decide) headers _
    · exact HeaderSet.get?_set_of_ne (by decide) headers _
    · rw [HeaderSet.get?_set_of_ne (by decide) headers]
  | query hpath habsent =>
    refine bound_of_get? ?_ ?_ ?_ hbound
    · exact HeaderSet.get?_set_of_ne (by decide) headers _
    · exact HeaderSet.get?_set_of_ne (by decide) headers _
    · rw [HeaderSet.get?_set, hpath, Option.map_some, Option.map_some, Query.splitPath_addParam]

end TokenSource

/-! ## From issue to acceptance -/

/-- A payload for a request: it says what the layout asks for, and all of it holds. -/
structure SymmetricScheme.Grants (scheme : SymmetricScheme) (payload : String)
    (entries : List (PayloadField × String)) (headers : HeaderSet) (now : Instant) : Prop where
  nonempty : payload ≠ ""
  values : entries.map Prod.snd = Text.splitText scheme.delimiter payload
  layout : entries.map Prod.fst = scheme.layout
  timestamps : ∀ entry ∈ entries, entry.1.IsTimestamp → (Text.int64? entry.2).isSome = true
  bound : ∀ entry ∈ entries, entry.1.Bound headers entry.2
  fresh : ∀ entry ∈ entries, scheme.Fresh now entry

/-- The token that a scheme issues for a payload. -/
def SymmetricScheme.issue (scheme : SymmetricScheme) (payload : String) : String :=
  SignedPayload.sign scheme.secret payload scheme.algorithm scheme.encoding

section
variable {scheme : SymmetricScheme} {payload : String} {entries : List (PayloadField × String)}
  {headers placed : HeaderSet} {now : Instant}

/-- A token that is issued is read as its payload says. -/
theorem SymmetricScheme.Grants.reads (hgrants : scheme.Grants payload entries headers now) :
    scheme.Reads (scheme.issue payload)
      ⟨payload, Digest.Hmac.sign scheme.algorithm scheme.secret (Utf8.encode payload)⟩ entries where
  parse := SignedPayload.parse_sign hgrants.nonempty _ _ _
  values := hgrants.values
  layout := hgrants.layout
  timestamps := hgrants.timestamps

/-- A token that is issued for a request is accepted with it. -/
theorem SymmetricScheme.Grants.validate (hgrants : scheme.Grants payload entries headers now) :
    scheme.validate (scheme.issue payload) headers now = .ok () :=
  (hgrants.reads.validate_iff headers now).1.2 ⟨hgrants.bound, rfl, hgrants.fresh⟩

/-- A token that is issued for a request has expired once one of its timestamps does not let it
live. -/
theorem SymmetricScheme.Grants.validate_expired {later : Instant}
    (hgrants : scheme.Grants payload entries headers now) {entry : PayloadField × String}
    (hentry : entry ∈ entries) (hstale : ¬ scheme.Fresh later entry) :
    scheme.validate (scheme.issue payload) headers later = .error .expired :=
  (hgrants.reads.validate_iff headers later).2.2.2.2.2
    ⟨hgrants.bound, rfl, fun hfresh => hstale (hfresh entry hentry)⟩

/-- A payload for a request is one for the request that is given a token. -/
theorem SymmetricScheme.Grants.of_places {token : String}
    (hgrants : scheme.Grants payload entries headers now)
    (hplaces : scheme.source.Places token headers placed) :
    scheme.Grants payload entries placed now :=
  { hgrants with bound := fun entry hentry => hplaces.bound (hgrants.bound entry hentry) }

/-- A token that is issued in base64 travels unchanged in every source. -/
theorem SymmetricScheme.isPortable_issue (hencoding : scheme.encoding = .base64)
    (payload : String) : TokenSource.IsPortable (scheme.issue payload) := by
  rw [SymmetricScheme.issue, hencoding]
  exact SignedPayload.isPortable_sign _ _ _

/-- The token of a request decides about it. -/
theorem TokenScheme.validate_symmetric {token : String}
    (h : scheme.source.extract headers = .ok token) (now : Instant) :
    (TokenScheme.symmetric scheme).validate headers now = scheme.validate token headers now := by
  simp only [TokenScheme.validate, TokenScheme.source, h, bind, Except.bind]

/-- **A token in base64 that is issued for a request and given to it in the source of its scheme is
taken from there unchanged, and accepted.** -/
theorem TokenScheme.validate_issued (hencoding : scheme.encoding = .base64)
    (hgrants : scheme.Grants payload entries headers now)
    (hplaces : scheme.source.Places (scheme.issue payload) headers placed) :
    scheme.source.extract placed = .ok (scheme.issue payload) ∧
      (TokenScheme.symmetric scheme).validate placed now = .ok () := by
  have hextract := hplaces.extract (scheme.isPortable_issue hencoding payload)
  refine ⟨hextract, ?_⟩
  rw [validate_symmetric hextract]
  exact (hgrants.of_places hplaces).validate

end

/-- A scheme for tokens in a parameter of the path, which are bound to a client and a path and are
good up to a second. -/
def linkScheme : SymmetricScheme where
  source := .query "token"
  secret := [0x6b, 0x65, 0x79]
  algorithm := .sha256
  encoding := .base64
  layout := [.clientIp, .expiresSeconds, .path, .unchecked]
  delimiter := "|"
  maxAge := none

/-- A request for a path with a query. -/
def linkRequest : HeaderSet :=
  .ofPairs [(Header.path, "/film?quality=high"), (Header.forwardedFor, "192.0.2.7, 10.0.0.1")]

/-- A payload for the client and the path of the request. -/
def linkPayload : String := "192.0.2.7|1700000000|/film|été"

/-- The request with a token in its query. -/
def linkedRequest : HeaderSet :=
  linkRequest.set Header.path
    (Query.addParam "/film?quality=high" "token" (linkScheme.issue linkPayload))

/-- The payload is one for the request, as long as its second has not come. -/
theorem grants_link : linkScheme.Grants linkPayload
    [(.clientIp, "192.0.2.7"), (.expiresSeconds, "1700000000"), (.path, "/film"),
      (.unchecked, "été")] linkRequest ⟨1600000000, 0⟩ where
  nonempty := by decide
  values := by decide +kernel
  layout := rfl
  timestamps := by decide +kernel
  bound := by
    have hclient : Address.sameClient "192.0.2.7" (linkRequest.clientIp?.getD "") = true := by
      decide +kernel
    simp only [List.forall_mem_cons, List.not_mem_nil, false_implies, implies_true, and_true]
    exact ⟨hclient, trivial, ⟨"/film?quality=high", by decide +kernel⟩, trivial⟩
  fresh := by
    have hread : Text.int64? "1700000000" = some 1700000000 := by decide +kernel
    simp only [List.forall_mem_cons, List.not_mem_nil, false_implies, implies_true, and_true]
    exact ⟨SymmetricScheme.fresh_of_not_isTimestamp (by decide) _,
      (SymmetricScheme.fresh_iff .expiresSeconds hread).2 (by decide),
      SymmetricScheme.fresh_of_not_isTimestamp (by decide) _,
      SymmetricScheme.fresh_of_not_isTimestamp (by decide) _⟩

/-- The request with the token is accepted. -/
theorem TokenScheme.validate_issued_link :
    linkScheme.encoding = .base64 ∧
      linkScheme.source.Places (linkScheme.issue linkPayload) linkRequest linkedRequest ∧
      linkScheme.source.extract linkedRequest = .ok (linkScheme.issue linkPayload) ∧
      (TokenScheme.symmetric linkScheme).validate linkedRequest ⟨1600000000, 0⟩ = .ok () := by
  have hplaces : linkScheme.source.Places (linkScheme.issue linkPayload) linkRequest
      linkedRequest := .query (by decide +kernel) (by decide +kernel)
  exact ⟨rfl, hplaces, validate_issued rfl grants_link hplaces⟩

end ProxyFilter
