import ProxyFilter.Text.Percent
import ProxyFilter.Text.Split

/-!
# Queries of request paths

A path may end in `?` and a query: segments joined by `&`, each a key and perhaps `=` and a value,
percent-encoded. Reading (`Query.ofPath`) decodes and skips empty segments. Writing works on the
raw text, so that `addParam` and `removeParam` leave every other segment as it was on the wire.
-/

namespace ProxyFilter

/-- A decoded parameter of a query. -/
structure Param where
  key : String
  value : String
  deriving DecidableEq, Repr

namespace Query

/-- The part of a path before its query, and the raw query. -/
def splitPath (path : String) : String × Option String :=
  match Text.splitOnce? '?' path with
  | some (p, q) => (p, some q)
  | none => (path, none)

/-- The raw key of a segment. -/
def segmentKey (segment : String) : String := Text.before '=' segment

/-- The parameter that a segment stands for; without `=` its value is empty. -/
def ofSegment (segment : String) : Param :=
  match Text.splitOnce? '=' segment with
  | some (k, v) => ⟨Percent.decode k, Percent.decode v⟩
  | none => ⟨Percent.decode segment, ""⟩

/-- The parameters of a raw query. -/
def parse (query : String) : List Param :=
  ((Text.splitAll '&' query).filter (! ·.isEmpty)).map ofSegment

/-- The parameters of a path. -/
def ofPath (path : String) : List Param :=
  match (splitPath path).2 with
  | some query => parse query
  | none => []

/-- The value of the first parameter with a key. -/
def get? (params : List Param) (key : String) : Option String :=
  (params.find? (·.key == key)).map Param.value

/-- The values of all parameters with a key. -/
def getAll (params : List Param) (key : String) : List String :=
  (params.filter (·.key == key)).map Param.value

/-- The value of the first parameter of a path with a key. -/
def getParam? (path key : String) : Option String := get? (ofPath path) key

/-- A path with one more parameter at the end of its query. -/
def addParam (path key value : String) : String :=
  path ++ (if path.contains '?' then "&" else "?")
    ++ Percent.encode key ++ "=" ++ Percent.encode value

/-- `segments` without the first one whose decoded key is `key`, if there is one. -/
def eraseSegment? (key : String) (segments : List String) : Option (List String) :=
  if segments.any fun s => Percent.decode (segmentKey s) == key then
    some (segments.eraseP fun s => Percent.decode (segmentKey s) == key)
  else none

/-- A path without the first parameter with a key. The question mark goes with the only segment of
a query; all other segments stay as they are. -/
def removeParam (path key : String) : String :=
  match splitPath path with
  | (_, none) => path
  | (bare, some query) =>
    match eraseSegment? key (Text.splitAll '&' query) with
    | none => path
    | some [] => bare
    | some kept => bare ++ "?" ++ String.intercalate "&" kept

end Query

end ProxyFilter
