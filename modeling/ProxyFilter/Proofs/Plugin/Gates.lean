import ProxyFilter.Plugin.Exchange
import ProxyFilter.Proofs.Plugin.Build

/-!
# The gates of a request

Before anything of a request is changed it has to pass the gates of the settings: the redirects, the
denylist, and every token scheme in order (`Settings.gates`). `Gate.Passes` says what a gate asks of
the headers as they were received, and `Gate.Refuses` what becomes of a request that it turns away.
`Decided` is the walk through a list of gates, up to the first that refuses; the checks of a plugin
take it (`Plugin.checkRequest_decided`). The main result is `Exchange.requestHeaders_gates`.
-/

namespace ProxyFilter

/-! ## Gates -/

/-- A check that stands before the edits. -/
inductive Gate
  /-- The host is not one that is sent elsewhere. -/
  | redirect (settings : RedirectSettings)
  /-- There is a token, and it is not listed. -/
  | denylist (settings : DenylistSettings)
  /-- A token scheme accepts the request. -/
  | auth (settings : AuthSettings)

/-- The gates of settings, in the order in which they decide. -/
def Settings.gates (s : Settings) : List Gate :=
  (s.redirect.map Gate.redirect).toList ++ (s.denylist.map Gate.denylist).toList
    ++ s.auth.map Gate.auth

/-- What is done with a request that goes no further. -/
def Halt.decision : Halt → Decision
  | reject reason => .respond (.ofRejection reason)
  | redirect status location => .redirect status location

namespace Gate
variable (headers : HeaderSet) (now : Instant)

/-- The headers of a request satisfy the gate. -/
def Passes : Gate → Prop
  | redirect r => ∃ map, DomainMap.parse r.mappings = .ok map ∧
      ∀ host, RedirectStage.hostOf? headers = some host →
        Ascii.lower host ∉ map.entries.map Prod.fst
  | denylist d => ∃ value, headers.get? d.header = some value ∧
      Text.trim value ≠ "" ∧ Text.trim value ∉ Text.words d.entries
  | auth a => ∃ scheme, a.build = .ok scheme ∧ scheme.validate headers now = .ok ()

/-- The gate turns a request away, with this outcome. -/
def Refuses : Gate → Halt → Prop
  | redirect r, halt => ∃ map host target, DomainMap.parse r.mappings = .ok map ∧
      RedirectStage.hostOf? headers = some host ∧ (Ascii.lower host, target) ∈ map.entries ∧
      halt = .redirect ⟨r.status⟩ (RedirectStage.schemeOf headers ++ "://" ++ target
        ++ RedirectStage.pathOf headers)
  | denylist d, halt =>
      (∀ value, headers.get? d.header = some value → Text.trim value = "") ∧
        halt = .reject .missingCredential ∨
      ∃ value, headers.get? d.header = some value ∧ Text.trim value ≠ "" ∧
        Text.trim value ∈ Text.words d.entries ∧ halt = .reject .denied
  | auth a, halt => ∃ scheme reason, a.build = .ok scheme ∧
      scheme.validate headers now = .error reason ∧ halt = .reject reason

variable {headers now}

/-- A gate that refuses a request is not passed by it. -/
theorem Refuses.not_passes {g : Gate} {halt : Halt} (h : g.Refuses headers now halt) :
    ¬ g.Passes headers now := by
  cases g with
  | redirect r =>
    obtain ⟨map, host, target, hmap, hhost, hmem, -⟩ := h
    rintro ⟨map', hmap', hfree⟩
    cases hmap.symm.trans hmap'
    exact hfree host hhost (List.mem_map.2 ⟨_, hmem, rfl⟩)
  | denylist d =>
    rintro ⟨value, hvalue, hne, hfree⟩
    rcases h with ⟨hblank, -⟩ | ⟨value', hvalue', -, hmem, -⟩
    · exact hne (hblank value hvalue)
    · cases hvalue.symm.trans hvalue'
      exact hfree hmem
  | auth a =>
    obtain ⟨scheme, reason, hscheme, hrefused, -⟩ := h
    rintro ⟨scheme', hscheme', haccepted⟩
    cases hscheme.symm.trans hscheme'
    cases hrefused.symm.trans haccepted

end Gate

/-! ## The walk through the gates -/

/-- A request goes through gates in order, up to the first that refuses it. -/
inductive Decided (headers : HeaderSet) (now : Instant) : List Gate → Except Halt Unit → Prop
  | nil : Decided headers now [] (.ok ())
  | pass {g : Gate} {gates : List Gate} {result : Except Halt Unit} :
      g.Passes headers now → Decided headers now gates result →
        Decided headers now (g :: gates) result
  | stop {g : Gate} {gates : List Gate} {halt : Halt} :
      g.Refuses headers now halt → Decided headers now (g :: gates) (.error halt)

namespace Decided
variable {headers : HeaderSet} {now : Instant} {gates gates' : List Gate}

/-- After gates that are passed the next ones decide. -/
theorem append {result : Except Halt Unit} (h : Decided headers now gates (.ok ()))
    (h' : Decided headers now gates' result) : Decided headers now (gates ++ gates') result := by
  generalize hr : (Except.ok () : Except Halt Unit) = r at h
  induction h with
  | nil => exact h'
  | pass hpass _ ih => exact .pass hpass (ih hr)
  | stop => cases hr

/-- After a gate that refuses no other is asked. -/
theorem append_error {halt : Halt} (h : Decided headers now gates (.error halt)) :
    Decided headers now (gates ++ gates') (.error halt) := by
  generalize hr : (Except.error halt : Except Halt Unit) = r at h
  induction h with
  | nil => cases hr
  | pass hpass _ ih => exact .pass hpass (ih hr)
  | stop hrefuses =>
    cases hr
    exact .stop hrefuses

/-- Checks one after the other walk through the gates of both. -/
theorem bind {first second : Except Halt Unit} (h : Decided headers now gates first)
    (h' : Decided headers now gates' second) :
    Decided headers now (gates ++ gates') (first >>= fun _ => second) := by
  cases first with
  | error halt => exact h.append_error
  | ok _ => exact h.append h'

/-- A request that gets through passes every gate. -/
theorem passes (h : Decided headers now gates (.ok ())) : ∀ g ∈ gates, g.Passes headers now := by
  generalize hr : (Except.ok () : Except Halt Unit) = r at h
  induction h with
  | nil => simp
  | pass hpass _ ih => exact List.forall_mem_cons.2 ⟨hpass, ih hr⟩
  | stop => cases hr

/-- A request that is stopped passes the gates before one that refuses it. -/
theorem first_refuses {halt : Halt} (h : Decided headers now gates (.error halt)) :
    ∃ before g after, gates = before ++ g :: after ∧ (∀ g' ∈ before, g'.Passes headers now) ∧
      g.Refuses headers now halt := by
  generalize hr : (Except.error halt : Except Halt Unit) = r at h
  induction h with
  | nil => cases hr
  | @pass g gates _ hpass _ ih =>
    obtain ⟨before, g', after, rfl, hbefore, hrefuses⟩ := ih hr
    exact ⟨g :: before, g', after, rfl, List.forall_mem_cons.2 ⟨hpass, hbefore⟩, hrefuses⟩
  | @stop g gates _ hrefuses =>
    cases hr
    exact ⟨[], g, gates, rfl, by simp, hrefuses⟩

/-- A request that passes every gate gets through. -/
theorem eq_ok {result : Except Halt Unit} (h : Decided headers now gates result)
    (hall : ∀ g ∈ gates, g.Passes headers now) : result = .ok () := by
  cases result with
  | ok _ => rfl
  | error halt =>
    obtain ⟨before, g, after, rfl, -, hrefuses⟩ := h.first_refuses
    exact absurd (hall g (by simp)) hrefuses.not_passes

end Decided

/-! ## The checks of a plugin -/

/-- A request is sent elsewhere if its host is in the map. -/
theorem RedirectStage.location?_eq_some {r : RedirectStage} {headers : HeaderSet}
    {location : String} (h : r.location? headers = some location) :
    ∃ host target, hostOf? headers = some host ∧ (Ascii.lower host, target) ∈ r.map.entries ∧
      location = schemeOf headers ++ "://" ++ target ++ pathOf headers := by
  obtain ⟨host, hhost, h⟩ := Option.bind_eq_some_iff.1 h
  obtain ⟨target, htarget, h⟩ := Option.bind_eq_some_iff.1 h
  cases h
  obtain ⟨before, after, hentries, -⟩ := List.lookup_eq_some_iff.1 htarget
  exact ⟨host, target, hhost, by simp [hentries], rfl⟩

/-- A request is not sent elsewhere if its host is not in the map. -/
theorem RedirectStage.location?_eq_none {r : RedirectStage} {headers : HeaderSet}
    (h : r.location? headers = none) :
    ∀ host, hostOf? headers = some host → Ascii.lower host ∉ r.map.entries.map Prod.fst := by
  intro host hhost hmem
  obtain ⟨⟨source, target⟩, hentry, rfl⟩ := List.mem_map.1 hmem
  have htarget : r.map.targetOf? host ≠ none := by
    intro hnone
    have := List.lookup_eq_none_iff.1 hnone _ hentry
    simp at this
  obtain ⟨target', htarget'⟩ := Option.ne_none_iff_exists'.1 htarget
  simp [location?, hhost, htarget'] at h

/-- The denylist looks at the first value of its header, without the blanks around it. -/
theorem DenylistStage.check_eq (d : DenylistStage) (headers : HeaderSet) : d.check headers =
    match headers.get? d.header with
    | none => .error .missingCredential
    | some value =>
      if Text.trim value = "" then .error .missingCredential
      else if Text.trim value ∈ d.entries then .error .denied else .ok () := by
  unfold check
  cases headers.get? d.header with
  | none => rfl
  | some value =>
    by_cases hblank : Text.trim value = "" <;> simp [hblank, Option.filter]

/-- The denylist asks for a token that is not one of the words of its settings. -/
theorem DenylistStage.check_decided (d : DenylistSettings) (headers : HeaderSet) (now : Instant) :
    Decided headers now [.denylist d] (orReject ((DenylistStage.build d).check headers)) := by
  have hwords (token : String) :
      token ∈ (DenylistStage.build d).entries ↔ token ∈ Text.words d.entries :=
    List.mem_eraseDups
  have hheader : (DenylistStage.build d).header = d.header := rfl
  rw [check_eq, hheader]
  cases hvalue : headers.get? d.header with
  | none => exact .stop (.inl ⟨by simp [hvalue], rfl⟩)
  | some value =>
    by_cases hblank : Text.trim value = ""
    · simp only [if_pos hblank]
      exact .stop (.inl ⟨by simp [hvalue, hblank], rfl⟩)
    · simp only [if_neg hblank, hwords]
      by_cases hlisted : Text.trim value ∈ Text.words d.entries
      · rw [if_pos hlisted]
        exact .stop (.inr ⟨value, hvalue, hblank, hlisted, rfl⟩)
      · rw [if_neg hlisted]
        exact .pass ⟨value, hvalue, hblank, hlisted⟩ .nil

namespace Plugin
variable {s : Settings} {p : Plugin} {headers : HeaderSet} {now : Instant}

/-- The redirects decide as the first gate. -/
theorem checkRedirect_decided (hp : p.BuiltFrom s) :
    Decided headers now (s.redirect.map Gate.redirect).toList (p.checkRedirect headers) := by
  rcases buildOption_eq_ok hp.redirect with ⟨hs, hstage⟩ | ⟨r, stage, hs, hstage, hbuild⟩
  · simp only [checkRedirect, hs, hstage]
    exact .nil
  · obtain ⟨hmap, hstatus, -⟩ := RedirectStage.build_eq_ok hbuild
    simp only [checkRedirect, hs, hstage]
    cases hlocation : stage.location? headers with
    | none => exact .pass ⟨stage.map, hmap, RedirectStage.location?_eq_none hlocation⟩ .nil
    | some location =>
      obtain ⟨host, target, hhost, hentry, rfl⟩ := RedirectStage.location?_eq_some hlocation
      rw [hstatus]
      exact .stop ⟨stage.map, host, target, hmap, hhost, hentry, rfl⟩

/-- The denylist decides as the gate after the redirects. -/
theorem checkDenylist_decided (hp : p.BuiltFrom s) :
    Decided headers now (s.denylist.map Gate.denylist).toList
      (orReject (p.checkDenylist headers)) := by
  simp only [checkDenylist, hp.denylist]
  cases s.denylist with
  | none => exact .nil
  | some d => exact DenylistStage.check_decided d headers now

/-- The token schemes decide in order. -/
theorem checkTokens_decided {auth : List AuthSettings} {stages : List AuthStage}
    (h : List.Forall₂ (fun a stage => AuthStage.build a = .ok stage) auth stages) :
    Decided headers now (auth.map Gate.auth)
      (orReject (stages.forM fun stage => stage.scheme.validate headers now)) := by
  induction h with
  | nil => exact .nil
  | @cons a stage auth stages hstage _ ih =>
    obtain ⟨hscheme, -⟩ := AuthStage.build_eq_ok hstage
    have hcons : (stage :: stages).forM (fun stage => stage.scheme.validate headers now) =
        stage.scheme.validate headers now >>= fun _ =>
          stages.forM fun stage => stage.scheme.validate headers now := rfl
    rw [hcons]
    cases hvalid : stage.scheme.validate headers now with
    | error reason => exact .stop ⟨stage.scheme, reason, hscheme, hvalid, rfl⟩
    | ok _ => exact .pass ⟨stage.scheme, hscheme, hvalid⟩ ih

/-- **The checks of a plugin walk through the gates of its settings.** -/
theorem checkRequest_decided (hp : p.BuiltFrom s) (headers : HeaderSet) (now : Instant) :
    Decided headers now s.gates (p.checkRequest headers now) := by
  rw [Settings.gates, List.append_assoc]
  exact (checkRedirect_decided hp).bind
    ((checkDenylist_decided hp).bind (checkTokens_decided hp.auth))

/-! ## The edits of an admitted request -/

/-- The path from which query parameters are copied: without tokens, and after its rule. -/
def editedPath (p : Plugin) (headers : HeaderSet) : String :=
  ((p.editPath (p.stripTokens ⟨headers, false⟩)).headers.get? Header.path).getD ""

end Plugin

/-- The parameter to be copied has a value that no header can hold. -/
def QueryHeaderSettings.Unusable (copy : QueryHeaderSettings) (path : String) : Prop :=
  ∃ value c, Query.getParam? path copy.param = some value ∧ c ∈ value.toList ∧
    Ascii.isControl c = true ∧ c ≠ '\t'

/-- The refusal of a request for a parameter that no header can hold. -/
def QueryHeaderSettings.refusal (copy : QueryHeaderSettings) : Rejection :=
  .parseFailure .request ("query parameter '" ++ copy.param ++ "' is not a valid header value")

namespace Plugin
variable {p : Plugin} {path : String} {copy : QueryHeaderSettings}
  {copies : List QueryHeaderSettings} {e : Edited}

/-- No header can hold a value with a control character other than a tab. -/
theorem isHeaderValue_eq_false {value : String} : isHeaderValue value = false ↔
    ∃ c ∈ value.toList, Ascii.isControl c = true ∧ c ≠ '\t' := by
  simp [isHeaderValue]

/-- Copying stops at a parameter that no header can hold. -/
theorem copyParams_of_unusable (h : copy.Unusable path) :
    copyParams (Query.ofPath path) (copy :: copies) e = (e, some copy.refusal) := by
  obtain ⟨value, c, hvalue, hc⟩ := h
  have hbad : isHeaderValue value = false := isHeaderValue_eq_false.2 ⟨c, hc⟩
  rw [Query.getParam?] at hvalue
  simp [copyParams, hvalue, hbad, QueryHeaderSettings.refusal]

/-- Copying goes on after any other parameter. -/
theorem copyParams_of_not_unusable (copies : List QueryHeaderSettings) (e : Edited)
    (h : ¬ copy.Unusable path) : ∃ e',
      copyParams (Query.ofPath path) (copy :: copies) e =
        copyParams (Query.ofPath path) copies e' := by
  simp only [copyParams]
  split
  · exact ⟨e, rfl⟩
  · next value hvalue =>
    split
    · exact ⟨_, rfl⟩
    · next hbad =>
      obtain ⟨c, hc⟩ := isHeaderValue_eq_false.1 (Bool.eq_false_iff.2 hbad)
      exact absurd ⟨value, c, hvalue, hc⟩ h

/-- Copying stops for a parameter that no header can hold, and for nothing else. -/
theorem copyParams_result (path : String) (copies : List QueryHeaderSettings) (e : Edited) :
    match (copyParams (Query.ofPath path) copies e).2 with
    | none => ∀ copy ∈ copies, ¬ copy.Unusable path
    | some reason => ∃ copy ∈ copies, copy.Unusable path ∧ reason = copy.refusal := by
  induction copies generalizing e with
  | nil => simp [copyParams]
  | cons copy copies ih =>
    by_cases hcopy : copy.Unusable path
    · rw [copyParams_of_unusable hcopy]
      exact ⟨copy, List.mem_cons_self, hcopy, rfl⟩
    · obtain ⟨e', he'⟩ := copyParams_of_not_unusable copies e hcopy
      have hrest := ih e'
      rw [he']
      split
      · next hnone =>
        rw [hnone] at hrest
        exact List.forall_mem_cons.2 ⟨hcopy, hrest⟩
      · next reason hsome =>
        rw [hsome] at hrest
        obtain ⟨copy', hmem, hunusable, hreason⟩ := hrest
        exact ⟨copy', List.mem_cons_of_mem _ hmem, hunusable, hreason⟩

/-- An admitted request is refused for a parameter that no header can hold, and for nothing
else. -/
theorem editRequest_result (p : Plugin) (properties : Properties) (headers : HeaderSet) :
    match (p.editRequest properties headers).2 with
    | none => ∀ copy ∈ p.queryHeaders, ¬ copy.Unusable (p.editedPath headers)
    | some reason =>
      ∃ copy ∈ p.queryHeaders, copy.Unusable (p.editedPath headers) ∧ reason = copy.refusal := by
  have hcopied : (p.editRequest properties headers).2 = (copyParams
      (Query.ofPath (p.editedPath headers)) p.queryHeaders
      (p.editPath (p.stripTokens ⟨headers, false⟩))).2 := by
    simp only [editRequest, copyQuery, editedPath]
    split <;> next h => rw [h]
  rw [hcopied]
  exact copyParams_result ..

end Plugin

/-! ## The phase of the request headers -/

namespace Exchange
variable {p : Plugin} {x : Exchange} {now : Instant} {headers : HeaderSet}

/-- A stopped exchange leaves the headers of a request alone. -/
theorem requestHeaders_of_closed (hx : x.closed = true) :
    x.requestHeaders p now headers = (x, headers, .proceed) := by
  rw [requestHeaders, if_pos hx]

/-- A request that a check stops keeps its headers. -/
theorem requestHeaders_of_halt {halt : Halt} (hx : x.closed = false)
    (h : p.checkRequest headers now = .error halt) :
    x.requestHeaders p now headers = (x.close, headers, halt.decision) := by
  simp only [requestHeaders, Plugin.routeRequest, hx, h]
  cases halt <;> rfl

/-- A request that no check stops is refused for a query parameter or goes on. -/
theorem requestHeaders_of_ok (hx : x.closed = false) (h : p.checkRequest headers now = .ok ()) :
    (x.requestHeaders p now headers).2.2 =
      match (p.editRequest x.properties headers).2 with
      | none => .ofModified (p.editRequest x.properties headers).1.modified
      | some reason => .respond (.ofRejection reason) := by
  simp only [requestHeaders, Plugin.routeRequest, hx, h]
  cases hedit : p.editRequest x.properties headers with
  | mk e reason => cases reason <;> rfl

/-- A request that no check stops has its headers edited, as far as they can be. -/
theorem headers_of_ok (hx : x.closed = false) (h : p.checkRequest headers now = .ok ()) :
    (x.requestHeaders p now headers).2.1 = (p.editRequest x.properties headers).1.headers := by
  simp only [requestHeaders, Plugin.routeRequest, hx, h]
  cases hedit : p.editRequest x.properties headers with
  | mk e reason => cases reason <;> rfl

/-- The decision for changed headers does not stop the exchange. -/
theorem stops_ofModified (modified : Bool) : (Decision.ofModified modified).stops = false := by
  cases modified <;> rfl

/-- A request that goes on in an open exchange was edited, and goes on with what came of it. -/
theorem requestHeaders_of_goesOn (hx : x.closed = false)
    (h : (x.requestHeaders p now headers).2.2.stops = false) :
    (p.editRequest x.properties headers).2 = none ∧ x.requestHeaders p now headers =
      (x, (p.editRequest x.properties headers).1.headers,
        .ofModified (p.editRequest x.properties headers).1.modified) := by
  cases hcheck : p.checkRequest headers now with
  | error halt =>
    rw [requestHeaders_of_halt hx hcheck] at h
    cases halt <;> cases h
  | ok _ =>
    rw [requestHeaders_of_ok hx hcheck] at h
    generalize hedited : p.editRequest x.properties headers = edited at h ⊢
    obtain ⟨e, reason⟩ := edited
    cases reason with
    | some reason => cases h
    | none => simp [requestHeaders, Plugin.routeRequest, hx, hcheck, hedited]

end Exchange

/-- **A request gets through only if it passes every gate, as it was received. Otherwise the first
gate that it does not pass decides, and its headers stay as they were. A request that passes every
gate is stopped only for a query parameter that no header can hold.** -/
theorem Exchange.requestHeaders_gates {s : Settings} {p : Plugin}
    (hp : Plugin.build s = .ok p) {x : Exchange} (hx : x.closed = false) (now : Instant)
    (headers : HeaderSet) :
    ((x.requestHeaders p now headers).2.2.stops = false →
      ∀ g ∈ s.gates, g.Passes headers now) ∧
    ((∃ g ∈ s.gates, ¬ g.Passes headers now) → ∃ before g after halt,
      s.gates = before ++ g :: after ∧ (∀ g' ∈ before, g'.Passes headers now) ∧
      ¬ g.Passes headers now ∧ g.Refuses headers now halt ∧
      x.requestHeaders p now headers = (x.close, headers, halt.decision)) ∧
    ((∀ g ∈ s.gates, g.Passes headers now) →
      ((x.requestHeaders p now headers).2.2.stops = true ↔
        ∃ copy ∈ s.queryHeaders, copy.Unusable (p.editedPath headers)) ∧
      ((x.requestHeaders p now headers).2.2.stops = true →
        (x.requestHeaders p now headers).2.2 = .respond (.text .badRequest "bad request"))) := by
  have hbuilt := Plugin.builtFrom_of_build hp
  have hdecided := Plugin.checkRequest_decided hbuilt headers now
  cases hcheck : p.checkRequest headers now with
  | error halt =>
    rw [hcheck] at hdecided
    obtain ⟨before, g, after, hgates, hbefore, hrefuses⟩ := hdecided.first_refuses
    have hg : g ∈ s.gates := by simp [hgates]
    rw [requestHeaders_of_halt hx hcheck]
    refine ⟨fun hstops => ?_, fun _ => ?_, fun hall => ?_⟩
    · cases halt <;> cases hstops
    · exact ⟨before, g, after, halt, hgates, hbefore, hrefuses.not_passes, hrefuses, rfl⟩
    · exact absurd (hall g hg) hrefuses.not_passes
  | ok _ =>
    rw [hcheck] at hdecided
    have hresult := p.editRequest_result x.properties headers
    rw [hbuilt.queryHeaders] at hresult
    rw [requestHeaders_of_ok hx hcheck]
    refine ⟨fun _ => hdecided.passes, fun ⟨g, hg, hfails⟩ => ?_, fun _ => ?_⟩
    · exact absurd (hdecided.passes g hg) hfails
    · cases hreason : (p.editRequest x.properties headers).2 with
      | none =>
        rw [hreason] at hresult
        simpa [stops_ofModified] using hresult
      | some reason =>
        rw [hreason] at hresult
        obtain ⟨copy, hcopy, hunusable, rfl⟩ := hresult
        exact ⟨⟨fun _ => ⟨copy, hcopy, hunusable⟩, fun _ => rfl⟩, fun _ => rfl⟩

/-- Settings with a redirect and a denylist. -/
def listedSettings : Settings where
  auth := []
  denylist := some ⟨"user-token", "alice mallory"⟩
  redirect := some ⟨"old.example new.example", 301⟩
  pathRule := none
  queryHeaders := []
  device := none
  trace := none
  geo := none
  statusRemap := none
  html := none
  mask := []

/-- A request with a listed token, for a host that is not sent elsewhere. -/
def listedRequest : HeaderSet :=
  .ofPairs [(Header.authority, "example"), ("user-token", " mallory")]

/-- The request with a listed token passes the redirects, and keeps its headers. -/
theorem Exchange.requestHeaders_listed : ∃ p, Plugin.build listedSettings = .ok p ∧
    Exchange.start.closed = false ∧ ∃ before g after halt,
      listedSettings.gates = before ++ g :: after ∧
      (∀ g' ∈ before, g'.Passes listedRequest .epoch) ∧ ¬ g.Passes listedRequest .epoch ∧
      g.Refuses listedRequest .epoch halt ∧
      Exchange.start.requestHeaders p .epoch listedRequest =
        (Exchange.start.close, listedRequest, halt.decision) := by
  obtain ⟨p, hp⟩ : ∃ p, Plugin.build listedSettings = .ok p := ⟨_, rfl⟩
  have hlisted : ∃ g ∈ listedSettings.gates, ¬ g.Passes listedRequest .epoch := by
    refine ⟨.denylist ⟨"user-token", "alice mallory"⟩, by simp [Settings.gates, listedSettings], ?_⟩
    rintro ⟨value, hvalue, -, hfree⟩
    cases hvalue
    exact hfree (by decide)
  exact ⟨p, hp, rfl, (requestHeaders_gates hp rfl .epoch listedRequest).2.1 hlisted⟩

end ProxyFilter
