import ProxyFilter.Text.Blank
import ProxyFilter.Text.Decimal
import ProxyFilter.Text.Split

/-!
# Arguments of a replay

A replay takes one request and one response through a plugin; its arguments say which
(`Replay.Options`), or ask for help or the version (`Replay.Command`). An option is written
`--name value` or `--name=value`, the one for the settings also `-c value`. `Command.parse?` refuses
anything else: unknown options, an option given twice that is not a list, a value that is missing or
makes no sense. Arguments behind a demand for help or the version are not looked at.
-/

namespace ProxyFilter.Replay

/-- What is replayed. -/
structure Options where
  /-- The file with the settings. -/
  settings : String
  path : String
  authority : String
  method : String
  /-- More headers of the request. -/
  headers : List (String × String)
  /-- What the host knows about the exchange. -/
  properties : List (String × String)
  /-- The number of the status of the response. -/
  status : Nat
  contentType : String
  /-- The file with the body of the response, if it has one. -/
  body : Option String
  /-- The number of octets of a chunk of the body. -/
  chunkSize : Nat
  deriving DecidableEq, Repr

/-! ## Values -/

/-- A header: a name and a value around the first colon that is not the first character. -/
def header? (raw : String) : Option (String × String) :=
  match raw.toList with
  | [] => none
  | first :: rest => (Text.splitOnceChars? ':' rest).map fun (name, value) =>
      (Text.trim (String.ofList (first :: name)), Text.trim (String.ofList value))

/-- A property: a name and a value around the first equals sign. -/
def property? (raw : String) : Option (String × String) := Text.splitOnce? '=' raw

/-- The number of a status. -/
def status? (raw : String) : Option Nat :=
  (Text.int64? raw).bind fun n => if 0 ≤ n ∧ n < 65536 then some n.toNat else none

/-- The name of a file, which is not empty. -/
def file? (raw : String) : Option String := if raw.isEmpty then none else some raw

/-! ## Reading -/

/-- The options that are read so far. -/
structure Draft where
  settings : Option String
  path : Option String
  authority : Option String
  method : Option String
  headers : List (String × String)
  properties : List (String × String)
  status : Option Nat
  contentType : Option String
  body : Option String
  chunkSize : Option Nat
  /-- Log lines are to be JSON, which changes nothing in what is printed. -/
  jsonLogs : Bool
  deriving DecidableEq, Repr

/-- No options are read. -/
def Draft.empty : Draft := ⟨none, none, none, none, [], [], none, none, none, none, false⟩

/-- A value for an option that has none yet. -/
def once? {α : Type} (former : Option α) (value : Option α) : Option (Option α) :=
  if former.isSome then none else value.map some

/-- The draft with the value of one more option. -/
def Draft.set? (d : Draft) (name value : String) : Option Draft :=
  match name with
  | "config" => (once? d.settings (file? value)).map fun v => { d with settings := v }
  | "path" => (once? d.path (some value)).map fun v => { d with path := v }
  | "authority" => (once? d.authority (some value)).map fun v => { d with authority := v }
  | "method" => (once? d.method (some value)).map fun v => { d with method := v }
  | "header" => (header? value).map fun h => { d with headers := d.headers ++ [h] }
  | "property" => (property? value).map fun p => { d with properties := d.properties ++ [p] }
  | "status" => (once? d.status (status? value)).map fun v => { d with status := v }
  | "content-type" => (once? d.contentType (some value)).map fun v => { d with contentType := v }
  | "body" => (once? d.body (file? value)).map fun v => { d with body := v }
  | "chunk-size" =>
    (once? d.chunkSize (Text.natBelow? UInt64.size value)).map fun v => { d with chunkSize := v }
  | _ => none

/-- What the arguments ask for. -/
inductive Command
  | replay (options : Options)
  | help
  | version
  deriving DecidableEq, Repr

/-- An argument taken apart. -/
inductive Argument
  /-- A demand that ends the reading. -/
  | demand (command : Command)
  /-- An option by its name, perhaps with its value. -/
  | option (name : String) (value : Option String)
  /-- The end of the options. -/
  | separator
  /-- No option. -/
  | plain
  deriving DecidableEq, Repr

/-- Takes an argument apart. A single dash is no option. -/
def Argument.ofText (arg : String) : Argument :=
  match arg.toList with
  | ['-', '-'] => separator
  | '-' :: 'h' :: _ => demand .help
  | '-' :: 'V' :: _ => demand .version
  | '-' :: '-' :: long =>
    match Text.splitOnceChars? '=' long with
    | some (name, value) => option (String.ofList name) (some (String.ofList value))
    | none =>
      if long = "help".toList then demand .help
      else if long = "version".toList then demand .version
      else option (String.ofList long) none
  | ['-', 'c'] => option "config" none
  | '-' :: 'c' :: '=' :: value => option "config" (some (String.ofList value))
  | '-' :: 'c' :: value => option "config" (some (String.ofList value))
  | '-' :: _ :: _ => option "" none
  | _ => plain

/-- The options with their defaults. The settings have none. -/
def Draft.finish? (d : Draft) : Option Options :=
  d.settings.map fun settings => {
    settings
    path := d.path.getD "/"
    authority := d.authority.getD "localhost"
    method := d.method.getD "GET"
    headers := d.headers
    properties := d.properties
    status := d.status.getD 200
    contentType := d.contentType.getD "text/html"
    body := d.body
    chunkSize := d.chunkSize.getD 4096 }

/-- Reads more arguments. -/
def Draft.read? (d : Draft) : List String → Option Command
  | [] => d.finish?.map .replay
  | arg :: rest =>
    match Argument.ofText arg with
    | .plain => none
    | .separator => if rest.isEmpty then d.finish?.map .replay else none
    | .demand command => some command
    | .option "json-logs" none =>
      if d.jsonLogs then none else Draft.read? { d with jsonLogs := true } rest
    | .option name (some value) => (d.set? name value).bind fun d => d.read? rest
    | .option name none =>
      match rest with
      | value :: rest =>
        if Argument.ofText value = .plain then (d.set? name value).bind fun d => d.read? rest
        else none
      | [] => none

/-- Reads the arguments of a replay. -/
def Command.parse? (args : List String) : Option Command := Draft.empty.read? args

end ProxyFilter.Replay
