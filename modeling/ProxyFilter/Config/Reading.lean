import ProxyFilter.Config.Settings
import ProxyFilter.Yaml.Reader

/-!
# Settings texts

Settings are written in JSON or in YAML (`Settings.parse`): a text whose first character that is no
blank is an opening brace is JSON, and a blank text says nothing. In JSON the fields of a section
may also be listed in order.
-/

namespace ProxyFilter.Settings

/-- Reads settings from a text without blanks in front. -/
def ofText? (text : String) : Option Settings :=
  if text.isEmpty then some empty
  else if text.toList.head? = some '\x7b' then
    (Document.ofJson? (Utf8.encode text)).bind (ofDocument? .namedOrListed)
  else (Document.ofYaml? text).bind (ofDocument? .named)

/-- Reads settings. -/
def parse (blob : Bytes) : Except ConfigError Settings :=
  match (Utf8.decode? blob).bind fun text => ofText? (Text.trimStart text) with
  | some s => .ok s
  | none => .error .malformed

end ProxyFilter.Settings
