import ProxyFilter.Config.Auth
import ProxyFilter.Config.Recaptcha

/-!
# Settings

`Settings` holds everything that can be configured, section by section; a section that is absent
turns its part of the filter off. `Settings.ofDocument?` reads a document, fills in the defaults and
refuses a section that it does not know. The values are checked later, when the filter is built.
-/

namespace ProxyFilter

/-- Requests with a listed token are refused. -/
structure DenylistSettings where
  /-- The header with the token of the user. -/
  header : String
  /-- The tokens, with blanks between them. -/
  entries : String
  deriving DecidableEq, Repr

/-- Requests for some hosts are sent elsewhere. -/
structure RedirectSettings where
  /-- The text of a domain map. -/
  mappings : String
  /-- The number of the status. -/
  status : Nat
  deriving DecidableEq, Repr

/-- A pattern and what replaces its matches. -/
structure ReplacementSettings where
  pattern : String
  replacement : String
  deriving DecidableEq, Repr

/-- A query parameter is copied to a header. -/
structure QueryHeaderSettings where
  param : String
  header : String
  deriving DecidableEq, Repr

/-- A header tells the kind of device. -/
structure DeviceSettings where
  header : String
  /-- Words that tell a bot, in place of the usual ones. -/
  botKeywords : Option (List String)
  deriving DecidableEq, Repr

/-- A header tells the trace of a request. -/
structure TraceSettings where
  header : String
  deriving DecidableEq, Repr

/-- A header tells the place of the client, which the host knows as a property. -/
structure GeoSettings where
  property : String
  header : String
  deriving DecidableEq, Repr

/-- Every status of a class is replaced. -/
structure StatusRemapSettings where
  /-- The first digit of the statuses. -/
  statusClass : Nat
  /-- The number of the status in their place. -/
  target : Nat
  deriving DecidableEq, Repr

/-- Markup is put after the first tag of a kind. -/
structure InjectSettings where
  selector : String
  markup : String
  deriving DecidableEq, Repr

/-- Links to some hosts are changed. -/
structure LinkSettings where
  selector : String
  /-- The attribute with the link. -/
  target : String
  /-- The text of a domain map. -/
  mappings : String
  deriving DecidableEq, Repr

/-- How markup is changed. -/
structure HtmlSettings where
  inject : List InjectSettings
  recaptcha : Option RecaptchaSettings
  links : Option LinkSettings
  /-- The greatest number of octets of one construct. -/
  maxTagBytes : Option Nat
  deriving DecidableEq, Repr

/-- Everything that can be configured. -/
structure Settings where
  auth : List AuthSettings
  denylist : Option DenylistSettings
  redirect : Option RedirectSettings
  pathRule : Option ReplacementSettings
  queryHeaders : List QueryHeaderSettings
  device : Option DeviceSettings
  trace : Option TraceSettings
  geo : Option GeoSettings
  statusRemap : Option StatusRemapSettings
  html : Option HtmlSettings
  mask : List ReplacementSettings

/-! ## Sections -/

section
variable (form : RecordForm) (d : Document)

/-- Reads the section of a denylist. -/
def DenylistSettings.ofDocument? : Option DenylistSettings := do
  let [header, entries] ← d.fields? form ["header", "entries"] | none
  return { header := ← Field.orElse Document.text? "user-token" header
           entries := ← Field.required Document.text? entries }

/-- Reads the section of redirects. -/
def RedirectSettings.ofDocument? : Option RedirectSettings := do
  let [mappings, status] ← d.fields? form ["mappings", "status"] | none
  return { mappings := ← Field.required Document.text? mappings
           status := ← Field.orElse (Document.wholeBelow? 65536) 301 status }

/-- Reads a pattern and its replacement. -/
def ReplacementSettings.ofDocument? : Option ReplacementSettings := do
  let [pattern, replacement] ← d.fields? form ["pattern", "replacement"] | none
  return { pattern := ← Field.required Document.text? pattern
           replacement := ← Field.required Document.text? replacement }

/-- Reads a parameter and its header. -/
def QueryHeaderSettings.ofDocument? : Option QueryHeaderSettings := do
  let [param, header] ← d.fields? form ["param", "header"] | none
  return { param := ← Field.required Document.text? param
           header := ← Field.required Document.text? header }

/-- Reads the section of devices. -/
def DeviceSettings.ofDocument? : Option DeviceSettings := do
  let [header, botKeywords] ← d.fields? form ["header", "bot_keywords"] | none
  return { header := ← Field.orElse Document.text? "x-device-type" header
           botKeywords := ← Field.optional (Document.listOf? Document.text?) botKeywords }

/-- Reads the section of traces. -/
def TraceSettings.ofDocument? : Option TraceSettings := do
  let [header] ← d.fields? form ["header"] | none
  return { header := ← Field.orElse Document.text? "x-trace-id" header }

/-- The place of the client as hosts usually tell it. -/
def GeoSettings.default : GeoSettings := ⟨"request.client_region", "x-country-code"⟩

/-- Reads the section of places. -/
def GeoSettings.ofDocument? : Option GeoSettings := do
  let [property, header] ← d.fields? form ["property", "header"] | none
  return { property := ← Field.orElse Document.text? GeoSettings.default.property property
           header := ← Field.orElse Document.text? GeoSettings.default.header header }

/-- Reads the section of statuses. -/
def StatusRemapSettings.ofDocument? : Option StatusRemapSettings := do
  let [statusClass, target] ← d.fields? form ["class", "to"] | none
  return { statusClass := ← Field.orElse (Document.wholeBelow? 65536) 5 statusClass
           target := ← Field.orElse (Document.wholeBelow? 65536) 404 target }

/-- Reads markup and its selector. -/
def InjectSettings.ofDocument? : Option InjectSettings := do
  let [selector, markup] ← d.fields? form ["selector", "markup"] | none
  return { selector := ← Field.required Document.text? selector
           markup := ← Field.required Document.text? markup }

/-- Reads the section of links. -/
def LinkSettings.ofDocument? : Option LinkSettings := do
  let [selector, target, mappings] ← d.fields? form ["selector", "attribute", "mappings"] | none
  return { selector := ← Field.orElse Document.text? "a[href]" selector
           target := ← Field.orElse Document.text? "href" target
           mappings := ← Field.required Document.text? mappings }

/-- Reads the section of markup. -/
def HtmlSettings.ofDocument? : Option HtmlSettings := do
  let [inject, recaptcha, links, maxTagBytes] ←
    d.fields? form ["inject", "recaptcha", "rewrite_links", "max_tag_bytes"] | none
  return {
    inject := ← Field.orElse (Document.listOf? (InjectSettings.ofDocument? form)) [] inject
    recaptcha := ← Field.optional (RecaptchaSettings.ofDocument? form) recaptcha
    links := ← Field.optional (LinkSettings.ofDocument? form) links
    maxTagBytes := ← Field.optional (Document.wholeBelow? UInt64.size) maxTagBytes }

end

/-! ## The whole -/

namespace Settings

/-- Nothing is configured. -/
def empty : Settings where
  auth := []
  denylist := none
  redirect := none
  pathRule := none
  queryHeaders := []
  device := none
  trace := none
  geo := none
  statusRemap := none
  html := none
  mask := []

/-- The names of the sections, in order. -/
def names : List String :=
  ["auth", "denylist", "domain_redirect", "path_rewrite", "query_to_header", "device", "trace",
    "geo", "status_remap", "html", "mask"]

/-- Reads all settings from a document. -/
def ofDocument? (form : RecordForm) (d : Document) : Option Settings := do
  if ! d.hasOnly names then none
  let [auth, denylist, redirect, pathRule, queryHeaders, device, trace, geo, statusRemap, html,
    mask] ← d.fields? form names | none
  return {
    auth := ← Field.orElse (Document.listOf? AuthSettings.ofDocument?) [] auth
    denylist := ← Field.optional (DenylistSettings.ofDocument? form) denylist
    redirect := ← Field.optional (RedirectSettings.ofDocument? form) redirect
    pathRule := ← Field.optional (ReplacementSettings.ofDocument? form) pathRule
    queryHeaders :=
      ← Field.orElse (Document.listOf? (QueryHeaderSettings.ofDocument? form)) [] queryHeaders
    device := ← Field.optional (DeviceSettings.ofDocument? form) device
    trace := ← Field.optional (TraceSettings.ofDocument? form) trace
    geo := ← Field.optional (GeoSettings.ofDocument? form) geo
    statusRemap := ← Field.optional (StatusRemapSettings.ofDocument? form) statusRemap
    html := ← Field.optional (HtmlSettings.ofDocument? form) html
    mask := ← Field.orElse (Document.listOf? (ReplacementSettings.ofDocument? form)) [] mask }

end Settings

end ProxyFilter
