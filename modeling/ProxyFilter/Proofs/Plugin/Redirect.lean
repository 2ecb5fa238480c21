import ProxyFilter.Proofs.Config.DomainMap
import ProxyFilter.Proofs.Http.Authority
import ProxyFilter.Proofs.Plugin.Gates

/-!
# Requests that are sent elsewhere

A request is sent elsewhere for its host and for nothing else (`Exchange.requestHeaders_redirects`).
The host is what the request says of it without a port (`RedirectStage.IsFor`), and it has to be a
source of the map, letter case ignored. The location is made of the scheme by which the client came,
the target of that source and the path of the request (`RedirectStage.LeadsTo`), so nothing else of
what the client says is in it, and no port.
-/

namespace ProxyFilter

namespace RedirectStage

/-! ## What a request says -/

/-- The authority of a request: the first pseudo-header for it, or the first host header of a
request without one. -/
def IsAuthority (headers : HeaderSet) (authority : String) : Prop :=
  headers.get? Header.authority = some authority ∨
    headers.get? Header.authority = none ∧ headers.get? Header.host = some authority

/-- The host that a request is for. -/
def IsFor (headers : HeaderSet) (host : String) : Prop :=
  ∃ authority, IsAuthority headers authority ∧ Authority.HostOf (Text.trim authority) host

/-- What is told of the scheme of a request: the first hop of a forwarded one, or its own. -/
def IsScheme (headers : HeaderSet) (scheme : String) : Prop :=
  (∃ chain, headers.get? Header.forwardedProto = some chain ∧ scheme = Text.before ',' chain) ∨
    headers.get? Header.forwardedProto = none ∧ headers.get? Header.scheme = some scheme

/-- The scheme of a location: plain if that is what is told, and else secure. -/
inductive CameBy (headers : HeaderSet) : String → Prop
  | plain {scheme : String} (htold : IsScheme headers scheme)
    (hplain : Ascii.sameName (Text.trim scheme) "http" = true) : CameBy headers "http"
  | secure (hother : ∀ scheme, IsScheme headers scheme →
      Ascii.sameName (Text.trim scheme) "http" = false) : CameBy headers "https"

/-- The path of a location: that of the request if it begins with a slash, and else the root. -/
inductive AsksFor (headers : HeaderSet) : String → Prop
  | path {path : String} (hpath : headers.get? Header.path = some path)
    (hslash : path.toList.head? = some '/') : AsksFor headers path
  | root (hother : ∀ path, headers.get? Header.path = some path → path.toList.head? ≠ some '/') :
    AsksFor headers "/"

/-- Where a request for a host with this target is sent. -/
def LeadsTo (headers : HeaderSet) (target location : String) : Prop :=
  ∃ scheme path, CameBy headers scheme ∧ AsksFor headers path ∧
    location = scheme ++ "://" ++ target ++ path

variable {headers : HeaderSet} {host target location : String}

/-- The host of a request is read as it is said. -/
theorem hostOf?_eq_some_iff : hostOf? headers = some host ↔ IsFor headers host := by
  have hauthority (authority : String) :
      ((headers.get? Header.authority).orElse fun _ => headers.get? Header.host) =
        some authority ↔ IsAuthority headers authority := by
    cases hfirst : headers.get? Header.authority <;> simp [IsAuthority, hfirst]
  simp only [hostOf?, Option.map_eq_some_iff, hauthority, Authority.splitHostPort_fst_eq_iff, IsFor]

/-- The scheme of a location is read as it is told. -/
theorem cameBy_schemeOf (headers : HeaderSet) : CameBy headers (schemeOf headers) := by
  generalize htold : (((headers.get? Header.forwardedProto).map (Text.before ',')).orElse fun _ =>
    headers.get? Header.scheme) = told
  have hscheme (scheme : String) : told = some scheme ↔ IsScheme headers scheme := by
    rw [← htold]
    cases hchain : headers.get? Header.forwardedProto <;> simp [IsScheme, hchain, eq_comm]
  simp only [schemeOf, htold]
  cases htold : told with
  | none =>
    refine .secure fun scheme h => ?_
    rw [← hscheme, htold] at h
    cases h
  | some scheme =>
    by_cases hplain : Ascii.sameName (Text.trim scheme) "http" = true
    · rw [if_pos (by simpa using hplain)]
      exact .plain ((hscheme scheme).1 htold) hplain
    · rw [if_neg (by simpa using hplain)]
      refine .secure fun scheme' h => ?_
      rw [← hscheme, htold] at h
      cases h
      exact Bool.eq_false_iff.2 hplain

/-- The path of a location is read as it is said. -/
theorem asksFor_pathOf (headers : HeaderSet) : AsksFor headers (pathOf headers) := by
  rw [pathOf]
  cases hpath : headers.get? Header.path with
  | none => exact .root fun path h => by simp [hpath] at h
  | some path =>
    by_cases hslash : path.toList.head? = some '/'
    · rw [Option.filter_some_pos (by simpa using hslash), Option.getD_some]
      exact .path hpath hslash
    · rw [Option.filter_some_neg (by simpa using hslash), Option.getD_none]
      refine .root fun path' h => ?_
      cases hpath.symm.trans h
      exact hslash

variable {r : RedirectStage}

/-- A host that is a source of the map has a location, which leads to its target. -/
theorem location?_of_sends (hmap : r.map.IsCanonical) (hhost : IsFor headers host)
    (htarget : r.map.Sends host target) :
    ∃ location, r.location? headers = some location ∧ LeadsTo headers target location := by
  refine ⟨_, ?_, schemeOf headers, pathOf headers, cameBy_schemeOf headers,
    asksFor_pathOf headers, rfl⟩
  simp [location?, hostOf?_eq_some_iff.2 hhost, hmap.targetOf?_eq_some_iff.2 htarget]

/-- There is a location only for a host that is a source of the map. -/
theorem sends_of_location? (h : r.location? headers = some location) :
    ∃ host target, IsFor headers host ∧ r.map.Sends host target := by
  obtain ⟨host, target, hhost, hentry, -⟩ := location?_eq_some h
  exact ⟨host, target, hostOf?_eq_some_iff.1 hhost, Ascii.lower host, hentry,
    by simp [Ascii.sameName]⟩

end RedirectStage

/-! ## The phase of the request headers -/

namespace Plugin
variable {s : Settings} {p : Plugin} {r : RedirectStage} {headers : HeaderSet} {now : Instant}
  {status : Status} {location : String}

/-- The map of a plugin is canonical, since it was read. -/
theorem BuiltFrom.isCanonical (hp : p.BuiltFrom s) (hr : p.redirect = some r) :
    r.map.IsCanonical := by
  rcases buildOption_eq_ok hp.redirect with ⟨-, hnone⟩ | ⟨settings, stage, -, hstage, hbuild⟩
  · cases hr.symm.trans hnone
  · cases hr.symm.trans hstage
    exact DomainMap.isCanonical_of_parse (RedirectStage.build_eq_ok hbuild).1

/-- A location stops a request before all else. -/
theorem checkRequest_of_location? (hr : p.redirect = some r)
    (h : r.location? headers = some location) :
    p.checkRequest headers now = .error (.redirect r.status location) := by
  simp only [checkRequest, checkRedirect, hr, h]
  rfl

/-- No other check sends a request elsewhere. -/
theorem location?_of_checkRequest (hr : p.redirect = some r)
    (h : p.checkRequest headers now = .error (.redirect status location)) :
    r.location? headers = some location := by
  cases hlocation : r.location? headers with
  | some found =>
    rw [checkRequest_of_location? hr hlocation] at h
    cases h
    rfl
  | none =>
    have hpassed : p.checkRedirect headers = .ok () := by simp only [checkRedirect, hr, hlocation]
    simp only [checkRequest, hpassed] at h
    cases hdenylist : p.checkDenylist headers with
    | error reason =>
      rw [hdenylist] at h
      cases h
    | ok _ =>
      rw [hdenylist] at h
      cases htokens : p.checkTokens headers now with
      | error reason =>
        rw [htokens] at h
        cases h
      | ok _ =>
        rw [htokens] at h
        cases h

end Plugin

namespace Exchange
variable {p : Plugin} {x : Exchange} {headers : HeaderSet} {now : Instant} {status : Status}
  {location : String}

/-- Only the checks of a request send it elsewhere. -/
theorem checkRequest_of_redirect (hx : x.closed = false)
    (h : (x.requestHeaders p now headers).2.2 = .redirect status location) :
    p.checkRequest headers now = .error (.redirect status location) := by
  cases hcheck : p.checkRequest headers now with
  | error halt =>
    rw [requestHeaders_of_halt hx hcheck] at h
    cases halt with
    | reject reason => cases h
    | redirect status' location' =>
      cases h
      rfl
  | ok _ =>
    rw [requestHeaders_of_ok hx hcheck] at h
    split at h
    · have hstops := congrArg Decision.stops h
      rw [stops_ofModified] at hstops
      cases hstops
    · cases h

end Exchange

/-- **A request is sent elsewhere just where the host that it is for is a source of the map, and
then to the target of that source, by the scheme and with the path that the request says.** -/
theorem Exchange.requestHeaders_redirects {s : Settings} {p : Plugin} {r : RedirectStage}
    (hp : Plugin.build s = .ok p) (hr : p.redirect = some r) {x : Exchange}
    (hx : x.closed = false) (now : Instant) (headers : HeaderSet) :
    ((∃ status location, (x.requestHeaders p now headers).2.2 = .redirect status location) ↔
      ∃ host target, RedirectStage.IsFor headers host ∧ r.map.Sends host target) ∧
    ∀ host target, RedirectStage.IsFor headers host → r.map.Sends host target →
      ∃ location, RedirectStage.LeadsTo headers target location ∧
        x.requestHeaders p now headers = (x.close, headers, .redirect r.status location) := by
  have hmap := (Plugin.builtFrom_of_build hp).isCanonical hr
  have hsent (host target : String) (hhost : RedirectStage.IsFor headers host)
      (htarget : r.map.Sends host target) : ∃ location,
      RedirectStage.LeadsTo headers target location ∧
        x.requestHeaders p now headers = (x.close, headers, .redirect r.status location) := by
    obtain ⟨location, hlocation, hleads⟩ := RedirectStage.location?_of_sends hmap hhost htarget
    exact ⟨location, hleads,
      requestHeaders_of_halt hx (Plugin.checkRequest_of_location? hr hlocation)⟩
  refine ⟨⟨?_, ?_⟩, hsent⟩
  · rintro ⟨status, location, h⟩
    exact RedirectStage.sends_of_location?
      (Plugin.location?_of_checkRequest hr (checkRequest_of_redirect hx h))
  · rintro ⟨host, target, hhost, htarget⟩
    obtain ⟨location, -, h⟩ := hsent host target hhost htarget
    exact ⟨r.status, location, by rw [h]⟩

/-- Settings with a redirect for a name and for an address. -/
def movedSettings : Settings :=
  { listedSettings with
    denylist := none
    redirect := some ⟨"Old.Example new.example\n[::1] v6.example", 301⟩ }

/-- The redirect of these settings. -/
def movedStage : RedirectStage :=
  ⟨⟨[("old.example", "new.example"), ("[::1]", "v6.example")]⟩, ⟨301⟩⟩

/-- The plugin of these settings. -/
def movedPlugin : Plugin where
  auth := []
  denylist := none
  redirect := some movedStage
  pathRule := none
  queryHeaders := []
  device := none
  traceHeader := none
  geo := none
  statusRemap := none
  html := none
  masker := []

/-- A request for the name in another letter case, with a port and a forwarded scheme. -/
def movedRequest : HeaderSet :=
  .ofPairs [(Header.authority, " OLD.example:8443"), (Header.forwardedProto, "HTTP , https"),
    (Header.path, "/a?b=%2F")]

/-- The request is sent to the target of the name, without its port. -/
theorem Exchange.requestHeaders_redirects_moved :
    Plugin.build movedSettings = .ok movedPlugin ∧ movedPlugin.redirect = some movedStage ∧
    start.closed = false ∧ RedirectStage.IsFor movedRequest "OLD.example" ∧
    movedStage.map.Sends "OLD.example" "new.example" ∧
    RedirectStage.LeadsTo movedRequest "new.example" "http://new.example/a?b=%2F" ∧
    start.requestHeaders movedPlugin .epoch movedRequest =
      (start.close, movedRequest, .redirect ⟨301⟩ "http://new.example/a?b=%2F") := by
  have hp : Plugin.build movedSettings = .ok movedPlugin := rfl
  have hhost : RedirectStage.IsFor movedRequest "OLD.example" :=
    RedirectStage.hostOf?_eq_some_iff.1 (by decide)
  have htarget : movedStage.map.Sends "OLD.example" "new.example" :=
    ⟨"old.example", List.mem_cons_self, by decide⟩
  have hlocation : movedStage.location? movedRequest = some "http://new.example/a?b=%2F" := by
    decide
  have hrun : start.requestHeaders movedPlugin .epoch movedRequest =
      (start.close, movedRequest, .redirect ⟨301⟩ "http://new.example/a?b=%2F") :=
    requestHeaders_of_halt rfl (Plugin.checkRequest_of_location? rfl hlocation)
  obtain ⟨location, hleads, h⟩ :=
    (requestHeaders_redirects hp rfl (x := start) rfl .epoch movedRequest).2 _ _ hhost htarget
  cases hrun.symm.trans h
  exact ⟨hp, rfl, rfl, hhost, htarget, hleads, hrun⟩

end ProxyFilter
