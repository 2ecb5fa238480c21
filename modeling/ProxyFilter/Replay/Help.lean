/-!
# Help on replays

`Replay.helpText` lists the options of a replay in two columns: how each is written, and what it is
for. `Replay.versionText` names the program and its version.
-/

namespace ProxyFilter.Replay

/-- What the help says of an option. -/
structure OptionHelp where
  /-- Its letter, if it has one. -/
  letter : Option Char
  name : String
  /-- What stands for its value, if it has one. -/
  value : Option String
  purpose : String
  deriving DecidableEq, Repr

/-- The options in order. -/
def optionHelps : List OptionHelp :=
  [⟨some 'c', "config", some "CONFIG",
      "Plugin configuration (JSON or YAML) [env: EDGEGUARD_CONFIG=]"⟩,
   ⟨none, "path", some "PATH", "Request `:path` [default: /]"⟩,
   ⟨none, "authority", some "AUTHORITY", "Request `:authority` [default: localhost]"⟩,
   ⟨none, "method", some "METHOD", "Request `:method` [default: GET]"⟩,
   ⟨none, "header", some "HEADERS", "Extra request header, `name:value` (repeatable)"⟩,
   ⟨none, "property", some "PROPERTIES", "Host property, `path=value` (repeatable)"⟩,
   ⟨none, "status", some "STATUS", "Upstream response status [default: 200]"⟩,
   ⟨none, "content-type", some "CONTENT_TYPE",
      "Upstream response content type [default: text/html]"⟩,
   ⟨none, "body", some "BODY", "Upstream response body file"⟩,
   ⟨none, "chunk-size", some "CHUNK_SIZE", "Body chunk size in bytes [default: 4096]"⟩,
   ⟨none, "json-logs", none, "Emit JSON logs on stderr"⟩,
   ⟨some 'h', "help", none, "Print help"⟩,
   ⟨some 'V', "version", none, "Print version"⟩]

namespace OptionHelp

/-- How an option is written, without its letter. -/
def long (o : OptionHelp) : String :=
  "--" ++ o.name ++ (o.value.map fun value => " <" ++ value ++ ">").getD ""

/-- The line of an option, whose purpose stands behind the column of the longest option. -/
def line (longest : Nat) (o : OptionHelp) : String :=
  let letter := (o.letter.map fun c => String.ofList ['-', c, ',', ' ']).getD "    "
  let gap := String.ofList (List.replicate (longest + 2 - o.long.length) ' ')
  "  " ++ letter ++ o.long ++ gap ++ o.purpose ++ "\n"

end OptionHelp

/-- What is printed for help. -/
def helpText : String :=
  let longest := (optionHelps.map fun o => o.long.length).foldl max 0
  "EdgeGuard - Request/response filter core for proxy extensions: signed-token auth and streaming "
    ++ "content rewriting\n\nUsage: edgeguard-replay [OPTIONS] --config <CONFIG>\n\nOptions:\n"
    ++ String.join (optionHelps.map (OptionHelp.line longest))

/-- What is printed for the version. -/
def versionText : String := "edgeguard-replay 0.1.0\n"

end ProxyFilter.Replay
