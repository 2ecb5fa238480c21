import ProxyFilter.Proofs.Http.Header
import ProxyFilter.Proofs.Http.Query
import ProxyFilter.Proofs.Pattern.Replacement
import ProxyFilter.Proofs.Plugin.Gates
import ProxyFilter.Proofs.Text.Ascii
import ProxyFilter.Proofs.Text.Plain

/-!
# Headers that nothing is injected into

A control character in a header could end it and begin another one. `HeaderSet.IsPlain` says that no
name and no value has one, tabs apart. Each stage of the request phase keeps headers so: what it
writes is cut from plain texts, chosen from a few, configured (`Settings.IsPlain`), or checked after
it is decoded (`Plugin.isHeaderValue_eq_true`). So the headers of a request stay plain, and where it
is sent elsewhere the location is plain (`Exchange.requestHeaders_plain`).
-/

namespace ProxyFilter

open Text (IsPlain)

/-! ## Header sets -/

/-- No name and no value has a control character other than a tab. -/
def HeaderSet.IsPlain (hs : HeaderSet) : Prop :=
  ∀ h ∈ hs.entries, Text.IsPlain h.name ∧ Text.IsPlain h.value

namespace HeaderSet

instance (hs : HeaderSet) : Decidable hs.IsPlain :=
  inferInstanceAs (Decidable (∀ h ∈ hs.entries, Text.IsPlain h.name ∧ Text.IsPlain h.value))

variable {hs : HeaderSet} {name value : String}

/-- The values of a plain header set are plain. -/
theorem IsPlain.get? (h : hs.IsPlain) (hvalue : hs.get? name = some value) :
    Text.IsPlain value := by
  obtain ⟨e, he, rfl⟩ := Option.map_eq_some_iff.1 hvalue
  exact (h e (List.mem_of_find?_eq_some he)).2

/-- Removing a name leaves plain headers plain. -/
theorem IsPlain.remove (h : hs.IsPlain) (name : String) : (hs.remove name).IsPlain :=
  fun e he => h e (List.mem_of_mem_filter he)

/-- Setting a plain value under a plain name leaves plain headers plain. -/
theorem IsPlain.set (h : hs.IsPlain) (hname : Text.IsPlain name) (hvalue : Text.IsPlain value) :
    (hs.set name value).IsPlain := by
  intro e he
  rcases (hs.set_changes name value).mem_set he with hmem | rfl
  · exact h e hmem
  · exact ⟨hname, hvalue⟩

/-- Removing a cookie leaves plain headers plain: what stays is cut from them and joined again. -/
theorem IsPlain.removeCookie (h : hs.IsPlain) (name : String) : (hs.removeCookie name).IsPlain := by
  have hpiece (piece : String) (hpiece : piece ∈ hs.cookiesWithout name) :
      Text.IsPlain piece := by
    obtain ⟨value, hvalue, hpiece⟩ := List.mem_flatMap.1 (List.mem_of_mem_filter hpiece)
    obtain ⟨part, hpart, rfl⟩ := List.mem_map.1 hpiece
    obtain ⟨e, he, rfl⟩ := List.mem_map.1 hvalue
    exact ((h e (List.mem_of_mem_filter he)).2.splitAll hpart).trim
  unfold HeaderSet.removeCookie
  split
  · exact h.remove _
  · next kept _ =>
    exact h.set (by decide) (Text.isPlain_intercalate (by decide) hpiece)

end HeaderSet

/-! ## Paths -/

/-- The parts of a plain path are plain. -/
theorem Query.isPlain_splitPath {path : String} (h : IsPlain path) :
    IsPlain (splitPath path).1 ∧ ∀ query, (splitPath path).2 = some query → IsPlain query := by
  rw [splitPath]
  cases hcut : Text.splitOnce? '?' path with
  | none => exact ⟨h, by simp⟩
  | some parts =>
    obtain ⟨-, hpath⟩ := Text.splitOnce?_eq_some.1 hcut
    refine ⟨h.of_subset fun c hc => by simp [hpath, hc], ?_⟩
    rintro query ⟨⟩
    exact h.of_subset fun c hc => by simp [hpath, hc]

/-- A plain path is plain without one of its parameters. -/
theorem Query.isPlain_removeParam {path : String} (h : IsPlain path) (key : String) :
    IsPlain (removeParam path key) := by
  obtain ⟨hbare, hquery⟩ := isPlain_splitPath h
  unfold removeParam
  split
  · exact h
  · next bare query hcut =>
    rw [hcut] at hbare hquery
    split
    · exact h
    · exact hbare
    · next kept _ hkept =>
      have hsegments : ∀ segment ∈ kept, IsPlain segment := by
        rw [eraseSegment?_eq, Option.ite_none_right_eq_some, Option.some.injEq] at hkept
        rw [← hkept.2]
        exact fun segment hsegment => (hquery query rfl).splitAll (List.eraseP_subset hsegment)
      exact (hbare.append (by decide)).append (Text.isPlain_intercalate (by decide) hsegments)

/-- A plain path is plain after a rule with a plain replacement. -/
theorem Pattern.ReplaceFirst.isPlain_transform {r : ReplaceFirst} {text path path' : String}
    (htemplate : r.template = Template.parse text) (htext : IsPlain text) (h : IsPlain path)
    (hpath : r.transform path = some path') : IsPlain path' := by
  obtain ⟨-, rfl⟩ : r.apply path ≠ path ∧ r.apply path = path' := by
    simpa [transform] using hpath
  refine Text.isPlain_decodeLossy fun x hx => ?_
  rcases ReplaceFirst.mem_applyOctets hx with hx | hx
  · exact ⟨path, h, hx⟩
  · rw [htemplate] at hx
    exact ⟨text, htext, Template.mem_of_octet_mem_parse hx⟩

/-! ## What is told of a request -/

/-- A hexadecimal digit in lower case is no control character. -/
theorem Ascii.isControl_toLower {c : Char} (h : isHexDigit c = true) :
    isControl c.toLower = false :=
  of_isHexDigit (P := fun c => isControl c.toLower = false) (by decide +kernel) h

/-- An id is written in hexadecimal digits, so in lower case it is plain. -/
theorem Trace.isPlain_lower {size : Nat} {id : String} (h : isId size id = true) :
    IsPlain (Ascii.lower id) := by
  simp only [isId, Bool.and_eq_true, List.all_eq_true] at h
  intro c hc hcontrol
  rw [Ascii.lower, String.toList_ofList] at hc
  obtain ⟨d, hd, rfl⟩ := List.mem_map.1 hc
  rw [Ascii.isControl_toLower (h.1.2 d hd)] at hcontrol
  cases hcontrol

/-- The trace of a cloud header is told by an id. -/
theorem Trace.exists_isId_of_ofCloud? {value : String} {trace : Trace}
    (h : ofCloud? value = some trace) :
    ∃ id, isId 32 id = true ∧ trace.traceId = Ascii.lower id := by
  simp only [ofCloud?, Option.ite_none_right_eq_some, Option.some.injEq, Bool.and_eq_true] at h
  obtain ⟨⟨hid, -⟩, rfl⟩ := h
  exact ⟨_, hid, rfl⟩

/-- The trace of a standard header is told by an id. -/
theorem Trace.exists_isId_of_ofTraceparent? {value : String} {trace : Trace}
    (h : ofTraceparent? value = some trace) :
    ∃ id, isId 32 id = true ∧ trace.traceId = Ascii.lower id := by
  unfold ofTraceparent? at h
  split at h
  · rw [Option.ite_none_right_eq_some] at h
    obtain ⟨hid, h⟩ := h
    obtain ⟨n, -, rfl⟩ := Option.map_eq_some_iff.1 h
    simp only [Bool.and_eq_true] at hid
    exact ⟨_, hid.1.2, rfl⟩
  · cases h

/-- The trace of a request is told by a plain text. -/
theorem Trace.isPlain_traceId {headers : HeaderSet} {trace : Trace}
    (h : ofHeaders? headers = some trace) : IsPlain trace.traceId := by
  have hid : ∃ id, isId 32 id = true ∧ trace.traceId = Ascii.lower id := by
    rw [ofHeaders?] at h
    cases hcloud : (headers.get? cloudHeader).bind ofCloud? with
    | some found =>
      obtain ⟨value, -, hvalue⟩ := Option.bind_eq_some_iff.1 hcloud
      rw [hcloud, Option.orElse_some, Option.some.injEq] at h
      exact h ▸ exists_isId_of_ofCloud? hvalue
    | none =>
      rw [hcloud, Option.orElse_none] at h
      obtain ⟨value, -, hvalue⟩ := Option.bind_eq_some_iff.1 h
      exact exists_isId_of_ofTraceparent? hvalue
  obtain ⟨id, hid, htrace⟩ := hid
  rw [htrace]
  exact isPlain_lower hid

/-- The kinds of devices have plain names. -/
theorem Device.isPlain_text (d : Device) : IsPlain d.text := by
  cases d <;> decide

/-- A header can hold the values that are plain. -/
theorem Plugin.isHeaderValue_eq_true {value : String} :
    isHeaderValue value = true ↔ IsPlain value :=
  Text.isPlain_iff_all

/-! ## The stages -/

/-- Nothing that the settings have written has a control character other than a tab: the names of
headers, the replacement for paths, and the hosts that requests are sent to. -/
structure Settings.IsPlain (s : Settings) : Prop where
  queryHeaders : ∀ copy ∈ s.queryHeaders, Text.IsPlain copy.header
  device : ∀ d ∈ s.device, Text.IsPlain d.header
  trace : ∀ t ∈ s.trace, Text.IsPlain t.header
  geo : ∀ g ∈ s.geo, Text.IsPlain g.header
  pathRule : ∀ r ∈ s.pathRule, Text.IsPlain r.replacement
  redirect : ∀ r ∈ s.redirect, ∀ map, DomainMap.parse r.mappings = .ok map →
    ∀ entry ∈ map.entries, Text.IsPlain entry.2

/-- Removing a token leaves plain headers plain. -/
theorem TokenSource.isPlain_strip (source : TokenSource) {headers : HeaderSet}
    (h : headers.IsPlain) : (source.strip headers).IsPlain := by
  cases source with
  | header name scheme => exact h.remove name
  | cookie name => exact h.removeCookie name
  | query name =>
    simp only [strip]
    cases hpath : headers.get? Header.path with
    | none => exact h
    | some path => exact h.set (by decide) (Query.isPlain_removeParam (h.get? hpath) name)

namespace Plugin

variable {s : Settings} {p : Plugin} {e : Edited}

/-- Removing all tokens leaves plain headers plain. -/
theorem isPlain_stripTokens (p : Plugin) (h : e.headers.IsPlain) :
    (p.stripTokens e).headers.IsPlain := by
  rw [stripTokens]
  induction p.auth.filter AuthStage.strip generalizing e with
  | nil => exact h
  | cons stage stages ih => exact ih (stage.scheme.source.isPlain_strip h)

/-- Changing the path leaves plain headers plain. -/
theorem isPlain_editPath (hbuilt : p.BuiltFrom s) (hs : s.IsPlain) (h : e.headers.IsPlain) :
    (p.editPath e).headers.IsPlain := by
  rw [editPath]
  split
  · next path' hpath' =>
    obtain ⟨rule, hrule, hpath'⟩ := Option.bind_eq_some_iff.1 hpath'
    obtain ⟨path, hpath, hpath'⟩ := Option.bind_eq_some_iff.1 hpath'
    rcases buildOption_eq_ok hbuilt.pathRule with ⟨-, hnone⟩ | ⟨settings, stage, hsettings, hstage,
      hcompile⟩
    · rw [hnone] at hrule
      cases hrule
    · cases hstage.symm.trans hrule
      obtain ⟨regex, -, rfl⟩ := Except.map_eq_ok hcompile
      exact h.set (by decide) (Pattern.ReplaceFirst.isPlain_transform rfl
        (hs.pathRule settings hsettings) (h.get? hpath) hpath')
  · exact h

/-- Copying parameters leaves plain headers plain: each value is looked at after it is decoded. By
induction on the copies. -/
theorem isPlain_copyParams (params : List Param) {copies : List QueryHeaderSettings}
    (hcopies : ∀ copy ∈ copies, Text.IsPlain copy.header) (h : e.headers.IsPlain) :
    (copyParams params copies e).1.headers.IsPlain := by
  induction copies generalizing e with
  | nil => exact h
  | cons copy copies ih =>
    rw [List.forall_mem_cons] at hcopies
    rw [copyParams]
    split
    · exact ih hcopies.2 h
    · split
      · next value _ hvalue =>
        exact ih hcopies.2 (h.set hcopies.1 (isHeaderValue_eq_true.1 hvalue))
      · exact h

/-- Telling the device leaves plain headers plain. -/
theorem isPlain_tellDevice (hbuilt : p.BuiltFrom s) (hs : s.IsPlain) (h : e.headers.IsPlain) :
    (p.tellDevice e).headers.IsPlain := by
  rw [tellDevice]
  split
  · next d hd =>
    rw [hbuilt.device] at hd
    obtain ⟨settings, hsettings, rfl⟩ := Option.map_eq_some_iff.1 hd
    exact h.set (hs.device settings hsettings) (Device.isPlain_text _)
  · exact h

/-- Telling the trace leaves plain headers plain. -/
theorem isPlain_tellTrace (hbuilt : p.BuiltFrom s) (hs : s.IsPlain) (h : e.headers.IsPlain) :
    (p.tellTrace e).headers.IsPlain := by
  rw [tellTrace]
  split
  · next header trace hheader htrace =>
    rw [hbuilt.traceHeader] at hheader
    obtain ⟨settings, hsettings, rfl⟩ := Option.map_eq_some_iff.1 hheader
    exact h.set (hs.trace settings hsettings) (Trace.isPlain_traceId htrace)
  · exact h

/-- Telling the place leaves plain headers plain. -/
theorem isPlain_tellPlace (hbuilt : p.BuiltFrom s) (hs : s.IsPlain) {properties : Properties}
    (hproperties : ∀ property ∈ properties, Text.IsPlain property.2) (h : e.headers.IsPlain) :
    (p.tellPlace properties e).headers.IsPlain := by
  rw [tellPlace]
  split
  · exact h
  · next g hg =>
    rw [hbuilt.geo] at hg
    split
    · next place hplace =>
      obtain ⟨hlookup, -⟩ := Option.filter_eq_some_iff.1 hplace
      obtain ⟨before, after, hmem, -⟩ := List.lookup_eq_some_iff.1 hlookup
      exact h.set (hs.geo g hg) (hproperties (g.property, place) (by simp [hmem]))
    · split
      · exact h.remove g.header
      · exact h

/-- **Every edit of a request leaves plain headers plain.** -/
theorem isPlain_editRequest (hbuilt : p.BuiltFrom s) (hs : s.IsPlain) {properties : Properties}
    (hproperties : ∀ property ∈ properties, Text.IsPlain property.2) {headers : HeaderSet}
    (h : headers.IsPlain) : (p.editRequest properties headers).1.headers.IsPlain := by
  have hpath : (p.editPath (p.stripTokens ⟨headers, false⟩)).headers.IsPlain :=
    isPlain_editPath hbuilt hs (isPlain_stripTokens p h)
  have hcopied : (p.copyQuery (p.editPath (p.stripTokens ⟨headers, false⟩))).1.headers.IsPlain :=
    isPlain_copyParams _ (hbuilt.queryHeaders ▸ hs.queryHeaders) hpath
  rw [editRequest]
  split
  · next hcopy =>
    rw [hcopy] at hcopied
    exact hcopied
  · next hcopy =>
    rw [hcopy] at hcopied
    exact isPlain_tellPlace hbuilt hs hproperties
      (isPlain_tellTrace hbuilt hs (isPlain_tellDevice hbuilt hs hcopied))

end Plugin

/-! ## Where requests are sent -/

/-- A gate sends a plain request to a plain location, made of a scheme, a host of the settings and
the path of the request. -/
theorem Gate.isPlain_location {s : Settings} (hs : s.IsPlain) {headers : HeaderSet}
    (h : headers.IsPlain) {now : Instant} {g : Gate} (hg : g ∈ s.gates) {status : Status}
    {location : String} (hrefuses : g.Refuses headers now (.redirect status location)) :
    IsPlain location := by
  cases g with
  | redirect r =>
    have hr : r ∈ s.redirect := by simpa [Settings.gates] using hg
    obtain ⟨map, host, target, hmap, -, htarget, ⟨⟩⟩ := hrefuses
    have hscheme : IsPlain (RedirectStage.schemeOf headers) := by
      simp only [RedirectStage.schemeOf]
      split <;> decide
    have hpath : IsPlain (RedirectStage.pathOf headers) := by
      rw [RedirectStage.pathOf]
      cases hpath : (headers.get? Header.path).filter fun p => p.toList.head? == some '/' with
      | none => decide
      | some path => exact h.get? (Option.filter_eq_some_iff.1 hpath).1
    exact ((hscheme.append (by decide)).append (hs.redirect r hr map hmap _ htarget)).append hpath
  | denylist d =>
    obtain (⟨-, ⟨⟩⟩ | ⟨-, -, -, -, ⟨⟩⟩) := hrefuses
  | auth a => obtain ⟨-, -, -, -, ⟨⟩⟩ := hrefuses

namespace Exchange

variable {p : Plugin} {now : Instant} {x : Exchange} {headers : HeaderSet}

/-- **No control character gets into the headers of a request, whatever is done with it.** If the
settings, the headers and the properties of an exchange have none but tabs, the headers have none
but tabs after the request phase, and a location that the request is sent to has none either. -/
theorem requestHeaders_plain {s : Settings} (hp : Plugin.build s = .ok p) (hs : s.IsPlain)
    (hproperties : ∀ property ∈ x.properties, IsPlain property.2) (h : headers.IsPlain) :
    (x.requestHeaders p now headers).2.1.IsPlain ∧
      ∀ status location, (x.requestHeaders p now headers).2.2 = .redirect status location →
        IsPlain location := by
  have hbuilt := Plugin.builtFrom_of_build hp
  cases hx : x.closed with
  | true =>
    rw [requestHeaders_of_closed hx]
    exact ⟨h, nofun⟩
  | false =>
    have hdecided := Plugin.checkRequest_decided hbuilt headers now
    cases hcheck : p.checkRequest headers now with
    | error halt =>
      rw [hcheck] at hdecided
      obtain ⟨before, g, after, hgates, -, hrefuses⟩ := hdecided.first_refuses
      rw [requestHeaders_of_halt hx hcheck]
      refine ⟨h, fun status location hlocation => ?_⟩
      cases halt with
      | reject reason => cases hlocation
      | redirect status' location' =>
        cases hlocation
        exact Gate.isPlain_location hs h (by simp [hgates]) hrefuses
    | ok _ =>
      rw [headers_of_ok hx hcheck, requestHeaders_of_ok hx hcheck]
      refine ⟨Plugin.isPlain_editRequest hbuilt hs hproperties h, fun status location => ?_⟩
      split
      · cases (p.editRequest x.properties headers).1.modified <;> exact nofun
      · exact nofun

/-- Settings with a redirect, a parameter that is copied to a header, and the place of clients. -/
def copyingSettings : Settings :=
  { Settings.empty with
    redirect := some ⟨"old.example new.example", 301⟩
    queryHeaders := [⟨"user", "x-user"⟩]
    geo := some .default }

/-- A request whose parameter would be two headers if it were copied. -/
def splittingRequest : HeaderSet :=
  .ofPairs [(Header.authority, "example"), (Header.path, "/?user=a%0D%0Ax-user: b")]

/-- Nothing in the settings is a control character. -/
theorem isPlain_copyingSettings : copyingSettings.IsPlain where
  queryHeaders := by decide
  device := nofun
  trace := nofun
  geo := by
    rintro g ⟨⟩
    decide
  pathRule := nofun
  redirect := by
    rintro r ⟨⟩ map hmap
    cases hmap
    decide

/-- The request is refused, and its headers have no control character. -/
theorem requestHeaders_plain_splitting : ∃ p, Plugin.build copyingSettings = .ok p ∧
    copyingSettings.IsPlain ∧ splittingRequest.IsPlain ∧
    (start.requestHeaders p .epoch splittingRequest).2.2 =
      .respond (.text .badRequest "bad request") ∧
    (start.requestHeaders p .epoch splittingRequest).2.1.IsPlain := by
  obtain ⟨p, hp⟩ : ∃ p, Plugin.build copyingSettings = .ok p := ⟨_, rfl⟩
  have hproperties : ∀ property ∈ start.properties, IsPlain property.2 := nofun
  have hrequest : splittingRequest.IsPlain := by decide +kernel
  have hrefused : (start.requestHeaders p .epoch splittingRequest).2.2 =
      .respond (.text .badRequest "bad request") := by
    cases hp
    decide +kernel
  exact ⟨p, hp, isPlain_copyingSettings, hrequest, hrefused,
    (requestHeaders_plain hp isPlain_copyingSettings hproperties hrequest).1⟩

end Exchange

end ProxyFilter
