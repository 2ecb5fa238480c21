import ProxyFilter.Proofs.Http.Header

/-!
# Cookies that are removed

Cookies are looked up in the texts of the cookie headers, and removing one takes these apart and
joins the pairs that stay in one header (`HeaderSet.cookiePairs_removeCookie`). The two agree on
what a pair is and on the name that it goes by (`HeaderSet.IsPairOf`), also where there is no value,
no name, or nothing between two semicolons: a cookie of another name is found as before
(`HeaderSet.cookie?_removeCookie_of_ne`). The header that is left stands where the first one stood
(`HeaderSet.set_cookie_of_mem`), and the others are not touched. The main result is
`HeaderSet.removeCookie_exact`.
-/

namespace ProxyFilter

open Header (Absent)

namespace HeaderSet
variable {hs : HeaderSet} {name other pair : String}

/-- The cookie pairs of a request: what stands between the semicolons of its cookie headers, unless
it is blank, and without the blanks around it. -/
def cookiePairs (hs : HeaderSet) : List String :=
  ((hs.getAll Header.cookie).flatMap fun value =>
    (Text.splitAll ';' value).map Text.trim).filter (· != "")

/-- A pair goes by this name: it is the name alone, or the name and a value. -/
inductive IsPairOf (name : String) : String → Prop
  | bare (hname : '=' ∉ name.toList) : IsPairOf name name
  | valued (hname : '=' ∉ name.toList) (value : String) : IsPairOf name (name ++ "=" ++ value)

/-- A pair is told by the name that it goes by. -/
theorem cookieName_eq_iff : cookieName pair = name ↔ IsPairOf name pair := by
  constructor
  · rintro rfl
    rw [cookieName]
    cases hcut : Text.splitOnce? '=' pair with
    | none =>
      rw [Text.before_of_splitOnce?_none hcut]
      exact .bare (Text.splitOnce?_eq_none.1 hcut)
    | some parts =>
      obtain ⟨hname, hpair⟩ := Text.splitOnce?_eq_some.1 hcut
      rw [Text.before_of_splitOnce? hcut]
      have hjoin : pair = parts.1 ++ "=" ++ parts.2 := by simp [← String.toList_inj, hpair]
      exact hjoin ▸ .valued hname parts.2
  · intro h
    cases h with
    | bare hname => exact Text.before_of_splitOnce?_none (Text.splitOnce?_eq_none.2 hname)
    | valued hname value =>
      have hcut : Text.splitOnce? '=' (name ++ "=" ++ value) = some (name, value) :=
        Text.splitOnce?_eq_some.2 ⟨hname, by simp⟩
      exact Text.before_of_splitOnce? hcut

/-- The cookies that stay are the pairs that go by other names. -/
theorem cookiesWithout_eq (hs : HeaderSet) (name : String) :
    hs.cookiesWithout name = hs.cookiePairs.filter (cookieName · != name) := by
  rw [cookiesWithout, cookiePairs, List.filter_filter]
  refine List.filter_congr fun piece _ => ?_
  have hempty : piece.isEmpty = (piece == "") := by rw [Bool.eq_iff_iff]; simp
  rw [Bool.and_comm, hempty]
  rfl

/-- **The pairs that go by other names stay, in order.** -/
theorem cookiePairs_removeCookie (hs : HeaderSet) (name : String) :
    (hs.removeCookie name).cookiePairs = hs.cookiePairs.filter (cookieName · != name) := by
  have hpieces : (hs.removeCookie name).cookiePieces =
      hs.cookiePairs.filter (cookieName · != name) := by
    rw [hs.cookiePieces_removeCookie, cookiesWithout_eq]
  have hpairs : (hs.removeCookie name).cookiePairs =
      (hs.removeCookie name).cookiePieces.filter (· != "") := rfl
  rw [hpairs, hpieces, List.filter_eq_self]
  intro pair hpair
  exact (List.mem_filter.1 (List.mem_filter.1 hpair).1).2

/-- A cookie is found among the pieces as it is among those that are kept, if its own are. -/
theorem find?_filterMap_filter {keep : String → Bool}
    (hkeep : ∀ piece value, Text.splitOnce? '=' piece = some (other, value) → keep piece = true)
    (pieces : List String) :
    ((pieces.filter keep).filterMap (Text.splitOnce? '=')).find? (·.1 == other) =
      (pieces.filterMap (Text.splitOnce? '=')).find? (·.1 == other) := by
  rw [← List.head?_filter, ← List.head?_filter, List.filterMap_filter, List.filter_filterMap,
    List.filter_filterMap]
  congr 2
  funext piece
  cases hkept : keep piece with
  | true => rfl
  | false =>
    cases hcut : Text.splitOnce? '=' piece with
    | none => rfl
    | some cookie =>
      have hother : (cookie.1 == other) = false := by
        rw [beq_eq_false_iff_ne]
        rintro rfl
        rw [hkeep piece cookie.2 hcut] at hkept
        cases hkept
      exact (Option.filter_some_neg (p := fun cookie : String × String => cookie.1 == other)
        hother).symm

/-- **A cookie of another name is found as before.** A piece that it is read from is not empty, and
goes by the other name. -/
theorem cookie?_removeCookie_of_ne (hs : HeaderSet) (h : other ≠ name) :
    (hs.removeCookie name).cookie? other = hs.cookie? other := by
  rw [cookie?, cookie?, cookiePieces_removeCookie, cookiesWithout]
  refine congrArg (Option.map Prod.snd) (find?_filterMap_filter (fun piece value hcut => ?_) _)
  have hname : cookieName piece = other := Text.before_of_splitOnce? hcut
  have hmark : '=' ∈ piece.toList := by simp [(Text.splitOnce?_eq_some.1 hcut).2]
  have hpiece : piece.isEmpty = false := by
    rw [Bool.eq_false_iff]
    intro hempty
    obtain rfl : piece = "" := by simpa using hempty
    simp at hmark
  simp [hname, h, hpiece]

/-- What removing the cookies of a name does to the headers: the cookie headers are removed if all
pairs go by the name, and else one is set in their place. -/
theorem removeCookie_cases (hs : HeaderSet) (name : String) :
    (∀ pair ∈ hs.cookiePairs, IsPairOf name pair) ∧
        hs.removeCookie name = hs.remove Header.cookie ∨
      (∃ pair ∈ hs.cookiePairs, ¬ IsPairOf name pair) ∧
        ∃ value, hs.removeCookie name = hs.set Header.cookie value := by
  have hstays (pair : String) : pair ∈ hs.cookiesWithout name ↔
      pair ∈ hs.cookiePairs ∧ ¬ IsPairOf name pair := by
    simp [cookiesWithout_eq, ← cookieName_eq_iff]
  rw [removeCookie]
  cases hkept : hs.cookiesWithout name with
  | nil =>
    refine .inl ⟨fun pair hpair => ?_, rfl⟩
    by_contra hother
    have hmem := (hstays pair).2 ⟨hpair, hother⟩
    rw [hkept] at hmem
    cases hmem
  | cons pair pairs =>
    obtain ⟨hpair, hother⟩ := (hstays pair).1 (hkept ▸ List.mem_cons_self)
    exact .inr ⟨⟨pair, hpair, hother⟩, _, rfl⟩

/-- There are no pairs where there is no cookie header. -/
theorem cookiePairs_of_absent (habsent : Absent Header.cookie hs.entries) :
    hs.cookiePairs = [] := by
  rw [cookiePairs, getAll_eq, habsent.under]
  rfl

/-- The cookie header that is set for some pairs stands where the first one stood. -/
theorem set_cookie_of_mem (hpair : pair ∈ hs.cookiePairs) (value : String) :
    ∃ before first after, hs.entries = before ++ first :: after ∧
      Absent Header.cookie before ∧ first.isNamed Header.cookie = true ∧
      (hs.set Header.cookie value).entries =
        before ++ ⟨Header.cookie, value⟩ :: Header.without Header.cookie after := by
  have hchanges := hs.set_changes Header.cookie value
  generalize hentries : hs.entries = entries at hchanges
  generalize (hs.set Header.cookie value).entries = entries' at hchanges
  cases hchanges with
  | @setFirst _ _ before after first hbefore hfirst =>
    exact ⟨before, first, after, rfl, hbefore, hfirst, rfl⟩
  | setLast habsent =>
    rw [cookiePairs_of_absent (hentries ▸ habsent)] at hpair
    cases hpair

/-- **Removing the cookies of a name leaves all else as it was.** No cookie of the name is found any
more, those of other names are found as before, their pairs stay in order, and the entries of other
headers stay as they are and in order. If all pairs go by the name no cookie header is left, and
else one, which stands where the first one stood. -/
theorem removeCookie_exact (hs : HeaderSet) (name : String) :
    (hs.removeCookie name).cookie? name = none ∧
    (∀ other, other ≠ name → (hs.removeCookie name).cookie? other = hs.cookie? other) ∧
    (hs.removeCookie name).cookiePairs = hs.cookiePairs.filter (cookieName · != name) ∧
    Header.without Header.cookie (hs.removeCookie name).entries =
      Header.without Header.cookie hs.entries ∧
    ((∀ pair ∈ hs.cookiePairs, IsPairOf name pair) →
      Absent Header.cookie (hs.removeCookie name).entries) ∧
    ((∃ pair ∈ hs.cookiePairs, ¬ IsPairOf name pair) →
      ∃ before first after value, hs.entries = before ++ first :: after ∧
        Absent Header.cookie before ∧ first.isNamed Header.cookie = true ∧
        (hs.removeCookie name).entries =
          before ++ ⟨Header.cookie, value⟩ :: Header.without Header.cookie after) := by
  refine ⟨hs.cookie?_removeCookie name, fun other h => hs.cookie?_removeCookie_of_ne h,
    hs.cookiePairs_removeCookie name, ?_⟩
  rcases hs.removeCookie_cases name with ⟨hall, hgone⟩ | ⟨⟨pair, hpair, hother⟩, value, hset⟩
  · rw [hgone]
    refine ⟨Header.without_without .., fun _ => Header.absent_without _ _, ?_⟩
    rintro ⟨pair, hpair, hother⟩
    exact absurd (hall pair hpair) hother
  · rw [hset]
    refine ⟨(hs.set_changes Header.cookie value).without, fun hall => ?_, fun _ => ?_⟩
    · exact absurd (hall pair hpair) hother
    · obtain ⟨before, first, after, hplace⟩ := set_cookie_of_mem hpair value
      exact ⟨before, first, after, value, hplace⟩

/-- Two cookie headers with names alone, empty pairs and a value with a mark of its own. -/
def scatteredCookies : HeaderSet :=
  .ofPairs [("Host", "example"), ("Cookie", "a=1;; flag ;b=x=y"), ("Accept", "*/*"),
    ("cookie", " a=2; =c;b")]

/-- Both cookies of a name go and the others are found in one header, where the first one stood. -/
theorem removeCookie_exact_scattered :
    "b" ≠ "a" ∧ (scatteredCookies.removeCookie "a").cookie? "b" = some "x=y" ∧
    (∃ pair ∈ scatteredCookies.cookiePairs, ¬ IsPairOf "a" pair) ∧
    (scatteredCookies.removeCookie "a").entries =
      [⟨"Host", "example"⟩, ⟨"cookie", "flag; b=x=y; =c; b"⟩, ⟨"Accept", "*/*"⟩] := by
  have hother : "b" ≠ "a" := by decide
  have hfound : scatteredCookies.cookie? "b" = some "x=y" := by decide +kernel
  have hpair : ∃ pair ∈ scatteredCookies.cookiePairs, ¬ IsPairOf "a" pair :=
    ⟨"flag", by decide +kernel, fun h => absurd (cookieName_eq_iff.2 h) (by decide)⟩
  obtain ⟨-, hkept, -⟩ := removeCookie_exact scatteredCookies "a"
  exact ⟨hother, (hkept "b" hother).trans hfound, hpair, by decide +kernel⟩

end HeaderSet

end ProxyFilter
