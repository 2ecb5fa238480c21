import ProxyFilter.Http.Header
import ProxyFilter.Http.Query
import ProxyFilter.Rejection

/-!
# Where a token travels

A token travels in a header (perhaps after a scheme word such as `Bearer`), in a cookie or in a
query parameter. `TokenSource.extract` takes it from a request and `TokenSource.strip` removes it,
so that the server never sees it.
-/

namespace ProxyFilter

/-- Where a token travels. -/
inductive TokenSource
  /-- In a header, after a scheme word if one is given. -/
  | header (name : String) (scheme : Option String)
  /-- In a cookie. -/
  | cookie (name : String)
  /-- In a parameter of the path. -/
  | query (name : String)
  deriving DecidableEq, Repr

namespace TokenSource

/-- What follows a scheme word and a space, without blanks at either end; letter case of the word
is ignored. -/
def afterScheme? (scheme value : String) : Option String :=
  match Text.splitOnce? ' ' (Text.trim value) with
  | some (word, rest) => if Ascii.sameName word scheme then some (Text.trim rest) else none
  | none => none

/-- A token that is not empty. -/
def nonEmpty (token : String) : Except Rejection String :=
  if token.isEmpty then .error .missingCredential else .ok token

/-- A value that may be absent, as a token. -/
def present (value : Option String) : Except Rejection String :=
  match value with
  | some token => nonEmpty token
  | none => .error .missingCredential

/-- The token of a request. -/
def extract (source : TokenSource) (headers : HeaderSet) : Except Rejection String :=
  match source with
  | header name none => present ((headers.get? name).map Text.trim)
  | header name (some scheme) =>
    match headers.get? name with
    | none => .error .missingCredential
    | some value =>
      match afterScheme? scheme value with
      | some token => nonEmpty token
      | none => .error (.malformedToken "unexpected authorization scheme")
  | cookie name => present (headers.cookie? name)
  | query name => present ((headers.get? Header.path).bind (Query.getParam? · name))

/-- A request without the token. -/
def strip (source : TokenSource) (headers : HeaderSet) : HeaderSet :=
  match source with
  | header name _ => headers.remove name
  | cookie name => headers.removeCookie name
  | query name =>
    match headers.get? Header.path with
    | some path => headers.set Header.path (Query.removeParam path name)
    | none => headers

/-- A short text for the source. -/
def text : TokenSource → String
  | header name _ => "header:" ++ name
  | cookie name => "cookie:" ++ name
  | query name => "query:" ++ name

end TokenSource

end ProxyFilter
