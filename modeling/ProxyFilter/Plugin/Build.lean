import ProxyFilter.Config.Settings
import ProxyFilter.Html.Editor
import ProxyFilter.Http.Device
import ProxyFilter.Http.LinkDomain
import ProxyFilter.Pattern.Replacement
import ProxyFilter.Text.Quoted

/-!
# The plugin

A `Plugin` is made once from settings (`Plugin.build`) and serves every exchange. Building checks
all values, section by section in a fixed order, and the first one that makes no sense decides the
error. `Plugin.summary` describes a plugin in one line, without its secrets.
-/

namespace ProxyFilter

/-- A token scheme in use. -/
structure AuthStage where
  scheme : TokenScheme
  /-- The token is removed from an accepted request. -/
  strip : Bool

/-- Refuses requests with a listed token. -/
structure DenylistStage where
  header : String
  /-- The tokens, each once. -/
  entries : List String

/-- Sends requests for some hosts elsewhere. -/
structure RedirectStage where
  map : DomainMap
  status : Status

/-- Tells the kind of device. -/
structure DeviceStage where
  header : String
  botKeywords : List String

/-- Replaces every status of a class. -/
structure StatusRemap where
  statusClass : Nat
  target : Status

/-- Everything that serves exchanges. -/
structure Plugin where
  auth : List AuthStage
  denylist : Option DenylistStage
  redirect : Option RedirectStage
  pathRule : Option Pattern.ReplaceFirst
  queryHeaders : List QueryHeaderSettings
  device : Option DeviceStage
  traceHeader : Option String
  geo : Option GeoSettings
  statusRemap : Option StatusRemap
  /-- The editor of markup, which has a rule at least. -/
  html : Option Html.Editor
  masker : Pattern.Masker

/-! ## Stages -/

/-- Checks a token scheme. -/
def AuthStage.build (s : AuthSettings) : Except ConfigError AuthStage :=
  s.build.map fun scheme => ⟨scheme, s.strip⟩

/-- Makes a denylist. -/
def DenylistStage.build (s : DenylistSettings) : DenylistStage :=
  ⟨s.header, Denylist.parse s.entries⟩

/-- Checks a redirect: first its status, then its map. -/
def RedirectStage.build (s : RedirectSettings) : Except ConfigError RedirectStage :=
  match (Status.ofNat? s.status).filter Status.isRedirect with
  | none =>
    .error (.invalidValue "domain_redirect.status"
      (toString s.status ++ " is not a redirect status"))
  | some status => (DomainMap.parse s.mappings).map fun map => ⟨map, status⟩

/-- Makes the stage for devices. -/
def DeviceStage.build (s : DeviceSettings) : DeviceStage :=
  ⟨s.header, s.botKeywords.getD Device.defaultBotKeywords⟩

/-- Checks the class and the status of a replacement. -/
def StatusRemap.build (s : StatusRemapSettings) : Except ConfigError StatusRemap :=
  if ! (1 ≤ s.statusClass && s.statusClass ≤ 5) then
    .error (.invalidValue "status_remap.class" (toString s.statusClass ++ " is not a status class"))
  else if ! (100 ≤ s.target && s.target ≤ 599) then
    .error (.invalidValue "status_remap.to" (toString s.target ++ " is not a status code"))
  else .ok ⟨s.statusClass, ⟨s.target⟩⟩

/-- The tag after which the script of a challenge stands. -/
def headSelector : Html.Selector := ⟨some "head", none⟩

/-- The limit on the octets of one construct. -/
def buildLimit (s : HtmlSettings) : Except ConfigError Nat :=
  match s.maxTagBytes with
  | none => .ok Html.defaultLimit
  | some limit =>
    if limit < Html.minLimit then
      .error (.invalidValue "html.max_tag_bytes" ("must be at least " ++ toString Html.minLimit))
    else .ok limit

/-- An editor that puts the script of a challenge in, if there is one. -/
def addRecaptcha (r : Html.Editor) :
    Option RecaptchaSettings → Except ConfigError Html.Editor
  | none => .ok r
  | some s => s.resolve.map fun key => r.injectAfter headSelector key.scriptTag

/-- An editor that puts more markup in. -/
def addInject (r : Html.Editor) (s : InjectSettings) : Except ConfigError Html.Editor :=
  (Html.Selector.parse s.selector).map fun selector => r.injectAfter selector s.markup

/-- An editor that changes links, if there are settings for them. -/
def addLinks (r : Html.Editor) : Option LinkSettings → Except ConfigError Html.Editor
  | none => .ok r
  | some s => do
    let map ← DomainMap.parse s.mappings
    let selector ← Html.Selector.parse s.selector
    return r.editAttribute selector s.target (LinkDomain.replace? map)

/-- Checks the settings for markup. An editor without rules is left out. -/
def buildHtml (s : HtmlSettings) : Except ConfigError (Option Html.Editor) := do
  let limit ← buildLimit s
  let r ← addRecaptcha (Html.Editor.empty.withLimit limit) s.recaptcha
  let r ← s.inject.foldlM addInject r
  let r ← addLinks r s.links
  return if r.isEmpty then none else some r

/-- Builds an optional section. -/
def buildOption {α β : Type} (build : α → Except ConfigError β) :
    Option α → Except ConfigError (Option β)
  | none => .ok none
  | some s => (build s).map some

namespace Plugin

/-- Makes a plugin of settings. -/
def build (s : Settings) : Except ConfigError Plugin := do
  let auth ← s.auth.mapM AuthStage.build
  let redirect ← buildOption RedirectStage.build s.redirect
  let pathRule ← buildOption (fun r => Pattern.ReplaceFirst.compile r.pattern r.replacement)
    s.pathRule
  let statusRemap ← buildOption StatusRemap.build s.statusRemap
  let html ← buildOption buildHtml s.html
  let masker ← s.mask.mapM fun r => Pattern.MaskRule.compile r.pattern r.replacement
  return {
    auth, redirect, pathRule, statusRemap, masker
    denylist := s.denylist.map DenylistStage.build
    queryHeaders := s.queryHeaders
    device := s.device.map DeviceStage.build
    traceHeader := s.trace.map TraceSettings.header
    geo := s.geo
    html := html.join }

/-! ## Summary -/

/-- The text for a value that may be absent. -/
def optionText {α : Type} (text : α → String) : Option α → String
  | none => "None"
  | some a => "Some(" ++ text a ++ ")"

/-- The settings for places in one line. -/
def geoText (g : GeoSettings) : String :=
  "GeoConfig \x7b property: " ++ Quoted.text g.property ++ ", header: " ++ Quoted.text g.header
    ++ " \x7d"

/-- The plugin in one line. -/
def summary (p : Plugin) : String :=
  "Plugin \x7b auth_schemes: " ++ toString p.auth.length
    ++ ", denylist: " ++ optionText (fun d => toString d.entries.length) p.denylist
    ++ ", domain_redirect: " ++ optionText (fun d => toString d.map.size) p.redirect
    ++ ", path_rewrite: " ++ toString p.pathRule.isSome
    ++ ", query_to_header: " ++ toString p.queryHeaders.length
    ++ ", device: " ++ toString p.device.isSome
    ++ ", trace_header: " ++ optionText Quoted.text p.traceHeader
    ++ ", geo: " ++ optionText geoText p.geo
    ++ ", html: " ++ optionText Html.Editor.summary p.html
    ++ ", masker: " ++ toString (! p.masker.isEmpty) ++ " \x7d"

end Plugin

end ProxyFilter
