import ProxyFilter.Plugin.Build
import ProxyFilter.Proofs.Failure

/-!
# What a plugin is made of

`Plugin.build` makes its sections in a fixed order and stops at the first that makes no sense. A
plugin that is built has every section of its settings, made by the function for that section
(`Plugin.BuiltFrom`, `Plugin.builtFrom_of_build`).
-/

namespace ProxyFilter

/-- An optional section is absent, or made of its settings. -/
theorem buildOption_eq_ok {α β : Type} {build : α → Except ConfigError β} {a : Option α}
    {b : Option β} (h : buildOption build a = .ok b) :
    a = none ∧ b = none ∨ ∃ settings stage, a = some settings ∧ b = some stage ∧
      build settings = .ok stage := by
  cases a with
  | none =>
    cases h
    exact .inl ⟨rfl, rfl⟩
  | some settings =>
    obtain ⟨stage, hbuild, rfl⟩ := Except.map_eq_ok h
    exact .inr ⟨settings, stage, rfl, rfl, hbuild⟩

/-- A section that is configured is made. -/
theorem exists_of_buildOption {α β : Type} {build : α → Except ConfigError β} {settings : α}
    {b : Option β} (h : buildOption build (some settings) = .ok b) :
    ∃ stage, b = some stage ∧ build settings = .ok stage := by
  obtain ⟨stage, hbuild, rfl⟩ := Except.map_eq_ok h
  exact ⟨stage, rfl, hbuild⟩

/-- A section that is made is configured. -/
theorem exists_settings_of_buildOption {α β : Type} {build : α → Except ConfigError β}
    {a : Option α} {stage : β} (h : buildOption build a = .ok (some stage)) :
    ∃ settings, a = some settings ∧ build settings = .ok stage := by
  rcases buildOption_eq_ok h with ⟨-, hnone⟩ | ⟨settings, built, hsettings, hbuilt, hbuild⟩
  · cases hnone
  · cases hbuilt
    exact ⟨settings, hsettings, hbuild⟩

/-- Every section of a plugin is made of its settings. -/
structure Plugin.BuiltFrom (s : Settings) (p : Plugin) : Prop where
  auth : List.Forall₂ (fun a stage => AuthStage.build a = .ok stage) s.auth p.auth
  denylist : p.denylist = s.denylist.map DenylistStage.build
  redirect : buildOption RedirectStage.build s.redirect = .ok p.redirect
  pathRule : buildOption (fun r => Pattern.ReplaceFirst.compile r.pattern r.replacement)
    s.pathRule = .ok p.pathRule
  queryHeaders : p.queryHeaders = s.queryHeaders
  device : p.device = s.device.map DeviceStage.build
  traceHeader : p.traceHeader = s.trace.map TraceSettings.header
  geo : p.geo = s.geo
  statusRemap : buildOption StatusRemap.build s.statusRemap = .ok p.statusRemap
  html : ∃ html, buildOption buildHtml s.html = .ok html ∧ p.html = html.join
  masker : List.Forall₂ (fun r rule => Pattern.MaskRule.compile r.pattern r.replacement = .ok rule)
    s.mask p.masker

/-- A plugin that is built has every section of its settings. -/
theorem Plugin.builtFrom_of_build {s : Settings} {p : Plugin} (h : Plugin.build s = .ok p) :
    p.BuiltFrom s := by
  obtain ⟨auth, hauth, h⟩ := Except.bind_eq_ok h
  obtain ⟨redirect, hredirect, h⟩ := Except.bind_eq_ok h
  obtain ⟨pathRule, hpathRule, h⟩ := Except.bind_eq_ok h
  obtain ⟨statusRemap, hstatusRemap, h⟩ := Except.bind_eq_ok h
  obtain ⟨html, hhtml, h⟩ := Except.bind_eq_ok h
  obtain ⟨masker, hmasker, h⟩ := Except.bind_eq_ok h
  cases h
  exact {
    auth := Except.forall₂_of_mapM_eq_ok hauth
    denylist := rfl
    redirect := hredirect
    pathRule := hpathRule
    queryHeaders := rfl
    device := rfl
    traceHeader := rfl
    geo := rfl
    statusRemap := hstatusRemap
    html := ⟨html, hhtml, rfl⟩
    masker := Except.forall₂_of_mapM_eq_ok hmasker }

/-- The tokens of a stage are accepted by the scheme of its settings. -/
theorem AuthStage.build_eq_ok {a : AuthSettings} {stage : AuthStage}
    (h : AuthStage.build a = .ok stage) : a.build = .ok stage.scheme ∧ stage.strip = a.strip := by
  obtain ⟨scheme, hscheme, rfl⟩ := Except.map_eq_ok h
  exact ⟨hscheme, rfl⟩

/-- A redirect that is built has the map and the status of its settings, which is one of a
redirect. -/
theorem RedirectStage.build_eq_ok {r : RedirectSettings} {stage : RedirectStage}
    (h : RedirectStage.build r = .ok stage) : DomainMap.parse r.mappings = .ok stage.map ∧
      stage.status = ⟨r.status⟩ ∧ stage.status.isRedirect = true := by
  unfold RedirectStage.build at h
  split at h
  · cases h
  · next status hstatus =>
    obtain ⟨map, hmap, rfl⟩ := Except.map_eq_ok h
    obtain ⟨hnumber, hredirect⟩ := Option.filter_eq_some_iff.1 hstatus
    simp only [Status.ofNat?, Option.ite_none_right_eq_some, Option.some.injEq] at hnumber
    exact ⟨hmap, hnumber.2.symm, hredirect⟩

/-- A replacement of statuses that is built has the class and the status of its settings, and both
are in range. -/
theorem StatusRemap.build_eq_ok {s : StatusRemapSettings} {remap : StatusRemap}
    (h : StatusRemap.build s = .ok remap) : remap = ⟨s.statusClass, ⟨s.target⟩⟩ ∧
      (1 ≤ s.statusClass ∧ s.statusClass ≤ 5) ∧ 100 ≤ s.target ∧ s.target ≤ 599 := by
  unfold StatusRemap.build at h
  split at h
  · cases h
  · next hclass =>
    split at h
    · cases h
    · next htarget =>
      cases h
      exact ⟨rfl, by simpa [Nat.one_le_iff_ne_zero] using hclass, by simpa using htarget⟩

end ProxyFilter
