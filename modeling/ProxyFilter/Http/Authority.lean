import ProxyFilter.Text.Split

/-!
# Hosts and ports

`splitHostPort` cuts a host, which may be an address in brackets, from the port after it.
-/

namespace ProxyFilter.Authority

/-- A host and the port after it, colon included. What is not a port stays with the host. -/
def splitHostPort (authority : String) : String × String :=
  if authority.toList.head? = some '[' then
    match Text.splitOnce? ']' authority with
    | some (inside, port) => (inside ++ "]", port)
    | none => (authority, "")
  else
    match Text.splitLast? ':' authority with
    | some (host, port) =>
      if port.toList.all Char.isDigit then (host, ":" ++ port) else (authority, "")
    | none => (authority, "")

end ProxyFilter.Authority
