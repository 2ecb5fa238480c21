import ProxyFilter.Proofs.Http.Header
import ProxyFilter.Proofs.Http.Query
import ProxyFilter.Token.Source

/-!
# What is left of a token

`TokenSource.strip` is meant to keep the token of an accepted request from the server. For headers
and cookies it does, however often the request has them: all of that name are removed. Of the
parameters of a query only the first is removed, so a request that repeats the parameter keeps a
copy. `TokenSource.extract_strip_iff` says when no token is left, and
`TokenSource.strip_leaves_copy` is a request with a copy.
-/

namespace ProxyFilter.TokenSource

/-- The path of the request has the parameter of the source twice. -/
def IsRepeated (source : TokenSource) (headers : HeaderSet) : Prop :=
  ∃ name path, source = .query name ∧ headers.get? Header.path = some path ∧
    Query.Repeats path name

/-- A token is missing unless there is a text that is not empty. -/
theorem present_eq_missing_iff (value : Option String) :
    present value = .error .missingCredential ↔ ¬ ∃ token, value = some token ∧ token ≠ "" := by
  cases value with
  | none => simp [present]
  | some token => by_cases hempty : token = "" <;> simp [present, nonEmpty, hempty]

/-- No token is left in a header that is removed. -/
theorem extract_strip_header (name : String) (scheme : Option String) (headers : HeaderSet) :
    (header name scheme).extract ((header name scheme).strip headers) =
      .error .missingCredential := by
  cases scheme <;> simp [extract, strip, present]

/-- No token is left in a cookie that is removed. -/
theorem extract_strip_cookie (name : String) (headers : HeaderSet) :
    (cookie name).extract ((cookie name).strip headers) = .error .missingCredential := by
  rw [strip, extract, HeaderSet.cookie?_removeCookie]
  rfl

/-- A token is left in the query of a path that has its parameter twice, and in no other. -/
theorem extract_strip_query (name : String) (headers : HeaderSet) :
    (query name).extract ((query name).strip headers) = .error .missingCredential ↔
      ¬ ∃ path, headers.get? Header.path = some path ∧ Query.Repeats path name := by
  rw [extract, present_eq_missing_iff, strip]
  cases hpath : headers.get? Header.path with
  | none => simp [hpath]
  | some path => simp [← Query.getParam?_removeParam]

/-- **A token is left after it is removed just where it is a parameter that the path has twice.** -/
theorem extract_strip_iff (source : TokenSource) (headers : HeaderSet) :
    source.extract (source.strip headers) = .error .missingCredential ↔
      ¬ source.IsRepeated headers := by
  cases source with
  | header name scheme => simp [extract_strip_header, IsRepeated]
  | cookie name => simp [extract_strip_cookie, IsRepeated]
  | query name =>
    rw [extract_strip_query]
    simp [IsRepeated]

/-- A request with its token twice in the query. -/
def repeatedRequest : HeaderSet := .ofPairs [(Header.path, "/a?token=one&token=one")]

/-- The server sees the token of such a request. -/
theorem strip_leaves_copy :
    (query "token").extract repeatedRequest = .ok "one" ∧
      (query "token").strip repeatedRequest = .ofPairs [(Header.path, "/a?token=one")] ∧
      (query "token").extract ((query "token").strip repeatedRequest) ≠
        .error .missingCredential := by
  decide +kernel

end ProxyFilter.TokenSource
