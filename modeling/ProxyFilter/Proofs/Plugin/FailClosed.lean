import ProxyFilter.Proofs.Config.Auth
import ProxyFilter.Proofs.Plugin.BuildHtml

/-!
# Plugins that leave no check out

What is configured is checked once, when the plugin is built, and what serves exchanges relies on
it: on the sections that are there, and on the values in them. `Plugin.FailsClosed` says both of a
plugin and its settings, and `Plugin.failsClosed_of_build` is the proof that every plugin that is
built has it. Its parts are proved where the sections are built
(`SymmetricSettings.isGuarded_of_build`, `RedirectStage.build_eq_ok`, `StatusRemap.build_eq_ok`,
`buildHtml_eq_ok`).
-/

namespace ProxyFilter

/-- The stage has the scheme of its settings, and removes tokens where they say so. A scheme with a
shared secret is guarded, and no verdict of it rests on an age that is not configured. -/
structure AuthStage.IsBuiltFrom (a : AuthSettings) (stage : AuthStage) : Prop where
  scheme : a.build = .ok stage.scheme
  strip : stage.strip = a.strip
  guarded {scheme : SymmetricScheme} : stage.scheme = .symmetric scheme → scheme.IsGuarded
  age {scheme : SymmetricScheme} : stage.scheme = .symmetric scheme →
    ∀ fallback raw headers now, (scheme.withFallback fallback).validate raw headers now =
      scheme.validate raw headers now

/-- Every check that the settings ask for is in the plugin, and so are the rules for statuses and
markup, with values in range. -/
structure Plugin.FailsClosed (s : Settings) (p : Plugin) : Prop where
  auth : List.Forall₂ AuthStage.IsBuiltFrom s.auth p.auth
  denylist {d : DenylistSettings} : s.denylist = some d →
    p.denylist = some ⟨d.header, Denylist.parse d.entries⟩
  redirect {r : RedirectSettings} : s.redirect = some r →
    ∃ stage, p.redirect = some stage ∧ DomainMap.parse r.mappings = .ok stage.map ∧
      stage.status = ⟨r.status⟩
  redirectStatus {stage : RedirectStage} : p.redirect = some stage →
    300 ≤ stage.status.code ∧ stage.status.code ≤ 399
  statusRemap {r : StatusRemapSettings} : s.statusRemap = some r →
    p.statusRemap = some ⟨r.statusClass, ⟨r.target⟩⟩
  statusRange {remap : StatusRemap} : p.statusRemap = some remap →
    (1 ≤ remap.statusClass ∧ remap.statusClass ≤ 5) ∧
      100 ≤ remap.target.code ∧ remap.target.code ≤ 599
  html {h : HtmlSettings} : s.html = some h →
    h.recaptcha ≠ none ∨ h.inject ≠ [] ∨ h.links ≠ none →
    ∃ r, p.html = some r ∧ h.IsMetBy r
  limit {r : Html.Editor} : p.html = some r → 16 ≤ r.limit
  mask : List.Forall₂ (fun m rule => Pattern.MaskRule.compile m.pattern m.replacement = .ok rule)
    s.mask p.masker

/-- A stage that is built is made of its settings, and guarded. -/
theorem AuthStage.isBuiltFrom_of_build {a : AuthSettings} {stage : AuthStage}
    (h : AuthStage.build a = .ok stage) : stage.IsBuiltFrom a := by
  obtain ⟨hscheme, hstrip⟩ := AuthStage.build_eq_ok h
  have hguarded {scheme : SymmetricScheme} (heq : stage.scheme = .symmetric scheme) :
      scheme.IsGuarded := by
    rw [heq] at hscheme
    cases a with
    | symmetric settings =>
      obtain ⟨built, hbuilt, hsame⟩ := Except.map_eq_ok hscheme
      cases hsame
      exact SymmetricSettings.isGuarded_of_build hbuilt
    | web settings =>
      obtain ⟨built, -, hsame⟩ := Except.map_eq_ok hscheme
      cases hsame
  exact ⟨hscheme, hstrip, hguarded, fun heq => (hguarded heq).validate_withFallback⟩

namespace Plugin.BuiltFrom
variable {s : Settings} {p : Plugin}

/-- A redirect that is configured is in the plugin. -/
theorem exists_redirect (h : p.BuiltFrom s) {r : RedirectSettings} (hr : s.redirect = some r) :
    ∃ stage, p.redirect = some stage ∧ DomainMap.parse r.mappings = .ok stage.map ∧
      stage.status = ⟨r.status⟩ := by
  have hbuild := h.redirect
  rw [hr] at hbuild
  obtain ⟨stage, hstage, hbuild⟩ := exists_of_buildOption hbuild
  obtain ⟨hmap, hstatus, -⟩ := RedirectStage.build_eq_ok hbuild
  exact ⟨stage, hstage, hmap, hstatus⟩

/-- The status of a redirect is one of a redirect. -/
theorem redirect_status (h : p.BuiltFrom s) {stage : RedirectStage}
    (hstage : p.redirect = some stage) : 300 ≤ stage.status.code ∧ stage.status.code ≤ 399 := by
  have hbuild := h.redirect
  rw [hstage] at hbuild
  obtain ⟨r, -, hbuild⟩ := exists_settings_of_buildOption hbuild
  obtain ⟨-, -, hrange⟩ := RedirectStage.build_eq_ok hbuild
  simp only [Status.isRedirect, Bool.and_eq_true, decide_eq_true_eq] at hrange
  omega

/-- A replacement of statuses that is configured is in the plugin. -/
theorem statusRemap_eq (h : p.BuiltFrom s) {r : StatusRemapSettings}
    (hr : s.statusRemap = some r) : p.statusRemap = some ⟨r.statusClass, ⟨r.target⟩⟩ := by
  have hbuild := h.statusRemap
  rw [hr] at hbuild
  obtain ⟨remap, hremap, hbuild⟩ := exists_of_buildOption hbuild
  rw [hremap, (StatusRemap.build_eq_ok hbuild).1]

/-- The class and the status of a replacement are in range. -/
theorem statusRemap_range (h : p.BuiltFrom s) {remap : StatusRemap}
    (hremap : p.statusRemap = some remap) : (1 ≤ remap.statusClass ∧ remap.statusClass ≤ 5) ∧
      100 ≤ remap.target.code ∧ remap.target.code ≤ 599 := by
  have hbuild := h.statusRemap
  rw [hremap] at hbuild
  obtain ⟨r, -, hbuild⟩ := exists_settings_of_buildOption hbuild
  obtain ⟨rfl, hclass, htarget⟩ := StatusRemap.build_eq_ok hbuild
  exact ⟨hclass, htarget⟩

/-- An editor of markup is in the plugin where the settings ask for a rule. -/
theorem exists_html (h : p.BuiltFrom s) {settings : HtmlSettings} (hs : s.html = some settings)
    (hasked : settings.recaptcha ≠ none ∨ settings.inject ≠ [] ∨ settings.links ≠ none) :
    ∃ r, p.html = some r ∧ settings.IsMetBy r := by
  obtain ⟨html, hbuild, hp⟩ := h.html
  rw [hs] at hbuild
  obtain ⟨built, rfl, hbuilt⟩ := exists_of_buildOption hbuild
  obtain ⟨r, hmet, rfl⟩ := buildHtml_eq_ok hbuilt
  have hrules : ¬ r.isEmpty = true := by
    rw [hmet.isEmpty_iff]
    rintro ⟨hrecaptcha, hinject, hlinks⟩
    rcases hasked with hasked | hasked | hasked
    · exact hasked hrecaptcha
    · exact hasked hinject
    · exact hasked hlinks
  refine ⟨r, ?_, hmet⟩
  rw [hp, if_neg hrules]
  rfl

/-- The limit of an editor is no less than the least. -/
theorem minLimit_le (h : p.BuiltFrom s) {r : Html.Editor} (hr : p.html = some r) :
    Html.minLimit ≤ r.limit := by
  obtain ⟨html, hbuild, hp⟩ := h.html
  obtain rfl : html = some (some r) := by
    rw [hr] at hp
    exact (Option.join_eq_some_iff.1 hp.symm)
  obtain ⟨settings, -, hbuilt⟩ := exists_settings_of_buildOption hbuild
  obtain ⟨built, hmet, hsome⟩ := buildHtml_eq_ok hbuilt
  split at hsome
  · cases hsome
  · cases hsome
    exact hmet.minLimit

end Plugin.BuiltFrom

/-- **A plugin that is built fails closed.** -/
theorem Plugin.failsClosed_of_build {s : Settings} {p : Plugin} (h : Plugin.build s = .ok p) :
    p.FailsClosed s := by
  have hbuilt := Plugin.builtFrom_of_build h
  exact {
    auth := hbuilt.auth.imp fun _ _ => AuthStage.isBuiltFrom_of_build
    denylist := by
      intro d hd
      rw [hbuilt.denylist, hd]
      rfl
    redirect := hbuilt.exists_redirect
    redirectStatus := hbuilt.redirect_status
    statusRemap := hbuilt.statusRemap_eq
    statusRange := hbuilt.statusRemap_range
    html := hbuilt.exists_html
    limit := hbuilt.minLimit_le
    mask := hbuilt.masker }

/-- Settings with a section of each kind that refuses or changes something. -/
def guardedSettings : Settings where
  auth := [.symmetric {
    source := .header "authorization" none
    secret := "S"
    algorithm := .md5
    encoding := .hex
    layout := [.clientIp, .issuedSeconds]
    delimiter := ","
    maxAgeSeconds := none
    maxAge := some "5m"
    strip := true }]
  denylist := some ⟨"user-token", "alice mallory"⟩
  redirect := some ⟨"old.example new.example", 302⟩
  pathRule := none
  queryHeaders := []
  device := none
  trace := none
  geo := none
  statusRemap := some ⟨5, 404⟩
  html := some {
    inject := [⟨"body", "<p>"⟩]
    recaptcha := some ⟨"ACTION", "k"⟩
    links := some ⟨"a[href]", "href", "old.example new.example"⟩
    maxTagBytes := some 16 }
  mask := [⟨"[0-9]", "#"⟩]

/-- A plugin is built of these settings, and fails closed. -/
theorem Plugin.failsClosed_of_build_guarded :
    ∃ p, Plugin.build guardedSettings = .ok p ∧ p.FailsClosed guardedSettings := by
  obtain ⟨p, hp, -⟩ : ∃ p, Plugin.build guardedSettings = .ok p ∧ (fun _ => true) p = true :=
    Except.exists_ok_of_any (by decide +kernel)
  exact ⟨p, hp, failsClosed_of_build hp⟩

end ProxyFilter
