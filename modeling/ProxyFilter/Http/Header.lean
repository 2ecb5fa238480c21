import ProxyFilter.Text.Ascii
import ProxyFilter.Text.Blank
import ProxyFilter.Text.Split

/-!
# Header sets

A header set is a list of named values in wire order, in which a name may occur more than once and
letter case does not tell names apart. Pseudo-headers (`:path`, `:status`, `:authority`, `:method`)
are entries like any other. Besides the operations on entries (`get?`, `add`, `set`, `remove`) the
module reads and removes single cookies and finds the address of the client.
-/

namespace ProxyFilter

/-- A header: a name and one value. -/
structure Header where
  name : String
  value : String
  deriving DecidableEq, Repr

namespace Header

/-- The request path, query included. -/
def path : String := ":path"

/-- The status of a response. -/
def status : String := ":status"

/-- The host a request is for, and perhaps a port. -/
def authority : String := ":authority"

/-- The method of a request. -/
def method : String := ":method"

/-- The scheme of a request. -/
def scheme : String := ":scheme"

/-- The host a request is for, where `authority` is absent. -/
def host : String := "host"

/-- The cookies of a request. -/
def cookie : String := "cookie"

/-- The cookies a response sets, of which each has a header of its own. -/
def setCookie : String := "set-cookie"

/-- The token of a user. -/
def userToken : String := "user-token"

/-- The chain of client addresses, the first client first. -/
def forwardedFor : String := "x-forwarded-for"

/-- The chain of schemes a request came by, the first one first. -/
def forwardedProto : String := "x-forwarded-proto"

/-- The target of a redirect. -/
def location : String := "location"

/-- The media type of a response. -/
def contentType : String := "content-type"

/-- The length of a body. -/
def contentLength : String := "content-length"

/-- The client program. -/
def userAgent : String := "user-agent"

/-- The header goes by this name, letter case ignored. -/
def isNamed (name : String) (h : Header) : Bool := Ascii.sameName h.name name

end Header

/-- The headers of one phase, in wire order. -/
structure HeaderSet where
  entries : List Header
  deriving DecidableEq, Repr

namespace HeaderSet

/-- The header set without entries. -/
def empty : HeaderSet := ⟨[]⟩

/-- The header set of these names and values. -/
def ofPairs (pairs : List (String × String)) : HeaderSet := ⟨pairs.map fun (n, v) => ⟨n, v⟩⟩

/-- The names and values of a header set. -/
def toPairs (hs : HeaderSet) : List (String × String) := hs.entries.map fun h => (h.name, h.value)

/-- The number of entries. -/
def size (hs : HeaderSet) : Nat := hs.entries.length

/-- All values under a name, in order. -/
def getAll (hs : HeaderSet) (name : String) : List String :=
  (hs.entries.filter (Header.isNamed name)).map Header.value

/-- The first value under a name. -/
def get? (hs : HeaderSet) (name : String) : Option String :=
  (hs.entries.find? (Header.isNamed name)).map Header.value

/-- Some entry goes by this name. -/
def contains (hs : HeaderSet) (name : String) : Bool := hs.entries.any (Header.isNamed name)

/-- Without the entries of a name. -/
def remove (hs : HeaderSet) (name : String) : HeaderSet :=
  ⟨hs.entries.filter fun h => ! h.isNamed name⟩

/-- With `value` joined to the last entry of a name, or in a new last entry where there is none.
Cookies that a response sets are never joined. -/
def add (hs : HeaderSet) (name value : String) : HeaderSet :=
  let fresh : HeaderSet := ⟨hs.entries ++ [⟨name, value⟩]⟩
  if Ascii.sameName name Header.setCookie then fresh
  else
    let older := hs.entries.reverse
    match older.findIdx? (Header.isNamed name) with
    | none => fresh
    | some i => ⟨(older.modify i fun h => { h with value := h.value ++ ", " ++ value }).reverse⟩

/-- With one entry of a name in place of all former ones: where the first of them stood, or last
where there was none. -/
def set (hs : HeaderSet) (name value : String) : HeaderSet :=
  let others := hs.entries.filter fun h => ! h.isNamed name
  match hs.entries.findIdx? (Header.isNamed name) with
  | some i => ⟨others.take i ++ ⟨name, value⟩ :: others.drop i⟩
  | none => ⟨others ++ [⟨name, value⟩]⟩

/-! ## Cookies -/

/-- The pieces of all cookie headers between semicolons, without blanks at their ends. -/
def cookiePieces (hs : HeaderSet) : List String :=
  (hs.getAll Header.cookie).flatMap fun v => (Text.splitAll ';' v).map Text.trim

/-- The value of a cookie: of the first piece `name=value` with this name. -/
def cookie? (hs : HeaderSet) (name : String) : Option String :=
  ((hs.cookiePieces.filterMap (Text.splitOnce? '=')).find? fun (k, _) => k == name).map (·.2)

/-- The name of a cookie piece: what stands before its first `=`, or all of it. -/
def cookieName (piece : String) : String := Text.before '=' piece

/-- The cookies that stay when one name is removed; empty pieces go too. -/
def cookiesWithout (hs : HeaderSet) (name : String) : List String :=
  hs.cookiePieces.filter fun piece => ! piece.isEmpty && cookieName piece != name

/-- Without the cookies of a name. What stays is gathered in one header, and no header is left
where nothing stays. -/
def removeCookie (hs : HeaderSet) (name : String) : HeaderSet :=
  match hs.cookiesWithout name with
  | [] => hs.remove Header.cookie
  | kept => hs.set Header.cookie (String.intercalate "; " kept)

/-! ## The client -/

/-- The address of the client: the first hop of the forwarding chain, unless blank. -/
def clientIp? (hs : HeaderSet) : Option String :=
  ((hs.get? Header.forwardedFor).map fun v => Text.trim (Text.before ',' v)).filter (! ·.isEmpty)

end HeaderSet

end ProxyFilter
