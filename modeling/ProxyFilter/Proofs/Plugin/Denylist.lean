import ProxyFilter.Proofs.Http.Header
import ProxyFilter.Proofs.Plugin.Gates

/-!
# A token that is told more than once

A header may come with several entries of one name, and the denylist looks at the first of them
alone. Where that one is listed or blank the request is refused, whatever comes after it
(`Plugin.checkDenylist_of_lists`, `Plugin.checkDenylist_of_blank`). Where it is neither, the request
is taken as if there were no denylist (`Plugin.routeRequest_withoutDenylist`), also if a later entry
is listed. `Exchange.requestHeaders_repeated` puts these cases together for all requests with a
listed token.
-/

namespace ProxyFilter

/-- The value, without the blanks around it, is a word of the denylist. -/
def DenylistSettings.Lists (d : DenylistSettings) (value : String) : Prop :=
  Text.trim value ∈ Text.words d.entries

/-- The plugin without its denylist. -/
def Plugin.withoutDenylist (p : Plugin) : Plugin := { p with denylist := none }

namespace Plugin
variable {s : Settings} {p : Plugin} {d : DenylistSettings} {headers : HeaderSet} {first : String}
  {later : List String}

/-- A request for a host that is not sent elsewhere gets through the redirects. -/
theorem checkRedirect_of_passes (hp : p.BuiltFrom s) {now : Instant}
    (hhost : ∀ r, s.redirect = some r → (Gate.redirect r).Passes headers now) :
    p.checkRedirect headers = .ok () := by
  have hdecided : Decided headers now (s.redirect.map Gate.redirect).toList
      (p.checkRedirect headers) := checkRedirect_decided hp
  refine hdecided.eq_ok fun g hg => ?_
  obtain ⟨r, hr, rfl⟩ : ∃ r, s.redirect = some r ∧ Gate.redirect r = g := by simpa using hg
  exact hhost r hr

/-- What the denylist says of the first of some values. -/
theorem checkDenylist_eq (hp : p.BuiltFrom s) (hd : s.denylist = some d)
    (hvalues : headers.getAll d.header = first :: later) : p.checkDenylist headers =
      if Text.trim first = "" then .error .missingCredential
      else if Text.trim first ∈ (DenylistStage.build d).entries then .error .denied
      else .ok () := by
  have hfirst : headers.get? (DenylistStage.build d).header = some first := by
    rw [HeaderSet.get?_eq_head?]
    exact congrArg List.head? hvalues
  simp only [checkDenylist, hp.denylist, hd, Option.map_some, DenylistStage.check_eq, hfirst]

/-- No listed value is blank. -/
theorem trim_ne_of_lists (h : d.Lists first) : Text.trim first ≠ "" := by
  intro hblank
  rw [DenylistSettings.Lists, hblank] at h
  obtain ⟨word, hword, hempty⟩ := List.mem_map.1 h
  obtain rfl : word = [] := String.ofList_injective hempty
  simpa using (List.mem_filter.1 hword).2

/-- A request whose first value is listed is refused. -/
theorem checkDenylist_of_lists (hp : p.BuiltFrom s) (hd : s.denylist = some d)
    (hvalues : headers.getAll d.header = first :: later) (h : d.Lists first) :
    p.checkDenylist headers = .error .denied := by
  have hentry : Text.trim first ∈ (DenylistStage.build d).entries := List.mem_eraseDups.2 h
  rw [checkDenylist_eq hp hd hvalues, if_neg (trim_ne_of_lists h), if_pos hentry]

/-- A request whose first value is blank is refused. -/
theorem checkDenylist_of_blank (hp : p.BuiltFrom s) (hd : s.denylist = some d)
    (hvalues : headers.getAll d.header = first :: later) (h : Text.trim first = "") :
    p.checkDenylist headers = .error .missingCredential := by
  rw [checkDenylist_eq hp hd hvalues, if_pos h]

/-- A request whose first value is neither listed nor blank gets through the denylist. -/
theorem checkDenylist_of_not_lists (hp : p.BuiltFrom s) (hd : s.denylist = some d)
    (hvalues : headers.getAll d.header = first :: later) (hblank : Text.trim first ≠ "")
    (h : ¬ d.Lists first) : p.checkDenylist headers = .ok () := by
  have hentry : Text.trim first ∉ (DenylistStage.build d).entries :=
    fun hmem => h (List.mem_eraseDups.1 hmem)
  rw [checkDenylist_eq hp hd hvalues, if_neg hblank, if_neg hentry]

/-- A request that the denylist refuses goes no further, if it gets there. -/
theorem checkRequest_of_checkDenylist {now : Instant} {reason : Rejection}
    (hredirect : p.checkRedirect headers = .ok ())
    (hdenylist : p.checkDenylist headers = .error reason) :
    p.checkRequest headers now = .error (.reject reason) := by
  simp only [checkRequest, hredirect, hdenylist]
  rfl

/-- The denylist makes no difference to a request that gets through it. -/
theorem routeRequest_withoutDenylist (h : p.checkDenylist headers = .ok ())
    (properties : Properties) (now : Instant) : p.routeRequest properties now headers =
      p.withoutDenylist.routeRequest properties now headers := by
  have hcheck : p.checkRequest headers now = p.withoutDenylist.checkRequest headers now := by
    simp only [checkRequest, h]
    rfl
  rw [routeRequest, routeRequest, hcheck]
  rfl

end Plugin

/-- **Of the values under the name of the denylist the first one decides.** A request with a listed
value among them, for a host that is not sent elsewhere, is refused if the first value is listed or
blank; otherwise the denylist makes no difference to it. -/
theorem Exchange.requestHeaders_repeated {s : Settings} {p : Plugin} {d : DenylistSettings}
    (hp : Plugin.build s = .ok p) (hd : s.denylist = some d) {x : Exchange} (hx : x.closed = false)
    (now : Instant) (headers : HeaderSet)
    (hhost : ∀ r, s.redirect = some r → (Gate.redirect r).Passes headers now)
    (hlisted : ∃ value ∈ headers.getAll d.header, d.Lists value) :
    ∃ first later, headers.getAll d.header = first :: later ∧
      (d.Lists first →
        x.requestHeaders p now headers = (x.close, headers, .respond (.ofRejection .denied))) ∧
      (Text.trim first = "" → x.requestHeaders p now headers =
        (x.close, headers, .respond (.ofRejection .missingCredential))) ∧
      (Text.trim first ≠ "" → ¬ d.Lists first →
        x.requestHeaders p now headers = x.requestHeaders p.withoutDenylist now headers) := by
  have hbuilt := Plugin.builtFrom_of_build hp
  have hredirect := Plugin.checkRedirect_of_passes hbuilt hhost
  obtain ⟨first, later, hvalues⟩ : ∃ first later, headers.getAll d.header = first :: later := by
    obtain ⟨value, hmem, -⟩ := hlisted
    exact List.exists_cons_of_ne_nil (List.ne_nil_of_mem hmem)
  refine ⟨first, later, hvalues, fun hfirst => ?_, fun hblank => ?_, fun hblank hfirst => ?_⟩
  · have hdenied := Plugin.checkDenylist_of_lists hbuilt hd hvalues hfirst
    exact requestHeaders_of_halt hx (Plugin.checkRequest_of_checkDenylist hredirect hdenied)
  · have hmissing := Plugin.checkDenylist_of_blank hbuilt hd hvalues hblank
    exact requestHeaders_of_halt hx (Plugin.checkRequest_of_checkDenylist hredirect hmissing)
  · have hpassed := Plugin.checkDenylist_of_not_lists hbuilt hd hvalues hblank hfirst
    simp only [requestHeaders, Plugin.routeRequest_withoutDenylist hpassed]

/-- Settings with a denylist alone. -/
def denylistSettings : Settings := { listedSettings with redirect := none }

/-- The plugin of these settings. -/
def denylistPlugin : Plugin where
  auth := []
  denylist := some (DenylistStage.build ⟨"user-token", "alice mallory"⟩)
  redirect := none
  pathRule := none
  queryHeaders := []
  device := none
  traceHeader := none
  geo := none
  statusRemap := none
  html := none
  masker := []

/-- A request that tells two tokens. -/
def twoTokens (first second : String) : HeaderSet :=
  .ofPairs [("User-Token", first), ("user-token", second)]

/-- One of the tokens is listed. -/
theorem lists_mallory : DenylistSettings.Lists ⟨"user-token", "alice mallory"⟩ "mallory" := by
  unfold DenylistSettings.Lists
  decide

/-- A listed token that comes first is refused. -/
theorem Exchange.requestHeaders_repeated_first :
    Plugin.build denylistSettings = .ok denylistPlugin ∧ start.closed = false ∧
    denylistSettings.denylist = some ⟨"user-token", "alice mallory"⟩ ∧
    (∀ r, denylistSettings.redirect = some r →
      (Gate.redirect r).Passes (twoTokens "mallory" "bob") .epoch) ∧
    (∃ value ∈ (twoTokens "mallory" "bob").getAll "user-token",
      DenylistSettings.Lists ⟨"user-token", "alice mallory"⟩ value) ∧
    start.requestHeaders denylistPlugin .epoch (twoTokens "mallory" "bob") =
      (start.close, twoTokens "mallory" "bob", .respond (.ofRejection .denied)) := by
  have hvalues : (twoTokens "mallory" "bob").getAll "user-token" = ["mallory", "bob"] := by decide
  have hhost (r) (hr : denylistSettings.redirect = some r) :
      (Gate.redirect r).Passes (twoTokens "mallory" "bob") .epoch := by cases hr
  have hlisted : ∃ value ∈ (twoTokens "mallory" "bob").getAll "user-token",
      DenylistSettings.Lists ⟨"user-token", "alice mallory"⟩ value :=
    ⟨"mallory", by simp [hvalues], lists_mallory⟩
  have hp : Plugin.build denylistSettings = .ok denylistPlugin := rfl
  have hd : denylistSettings.denylist = some ⟨"user-token", "alice mallory"⟩ := rfl
  obtain ⟨first, later, hfirst, hdenied, -⟩ := requestHeaders_repeated hp hd (x := start) rfl
    .epoch (twoTokens "mallory" "bob") hhost hlisted
  obtain ⟨rfl, -⟩ := List.cons.inj (hvalues.symm.trans hfirst)
  exact ⟨hp, rfl, hd, hhost, hlisted, hdenied lists_mallory⟩

/-- A listed token that comes second is not noticed. -/
theorem Exchange.requestHeaders_repeated_second :
    Plugin.build denylistSettings = .ok denylistPlugin ∧ start.closed = false ∧
    denylistSettings.denylist = some ⟨"user-token", "alice mallory"⟩ ∧
    denylistSettings.redirect = none ∧
    (∃ value ∈ (twoTokens "bob" "mallory").getAll "user-token",
      DenylistSettings.Lists ⟨"user-token", "alice mallory"⟩ value) ∧
    start.requestHeaders denylistPlugin .epoch (twoTokens "bob" "mallory") =
      (start, twoTokens "bob" "mallory", .proceed) := by
  have hcheck : denylistPlugin.checkRequest (twoTokens "bob" "mallory") .epoch = .ok () := by
    decide +kernel
  refine ⟨rfl, rfl, rfl, rfl, ⟨"mallory", by decide, lists_mallory⟩, ?_⟩
  simp only [requestHeaders, Plugin.routeRequest, hcheck]
  rfl

end ProxyFilter
