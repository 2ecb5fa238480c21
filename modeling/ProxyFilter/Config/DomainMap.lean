import ProxyFilter.Config.Error
import ProxyFilter.Text.Ascii
import ProxyFilter.Text.Blank
import ProxyFilter.Text.Split

/-!
# Domain maps and denylists

A domain map is text: a source and a target domain on each line, in lower case once read
(`DomainMap.parse`). Blank lines and lines that begin with `#` are skipped, and no source may occur
twice. A denylist is text too: its entries are the words of it (`Denylist.parse`).
-/

namespace ProxyFilter

/-- Source domains and their targets, all in lower case, each source once. -/
structure DomainMap where
  entries : List (String × String)
  deriving DecidableEq, Repr

namespace DomainMap

/-- The map without entries. -/
def empty : DomainMap := ⟨[]⟩

/-- The target of a source. -/
def get? (m : DomainMap) (source : String) : Option String := m.entries.lookup source

/-- The target of a host, letter case ignored. -/
def targetOf? (m : DomainMap) (host : String) : Option String := m.get? (Ascii.lower host)

/-- The number of entries. -/
def size (m : DomainMap) : Nat := m.entries.length

/-- The line says nothing: it is blank or a comment. -/
def isSkipped (line : String) : Bool :=
  let line := Text.trim line
  line.isEmpty || line.toList.head? == some '#'

/-- The map with the entry of one more line, which is the line number `number`. -/
def addLine (m : DomainMap) (number : Nat) (line : String) : Except ConfigError DomainMap :=
  if isSkipped line then .ok m
  else
    match Text.words line with
    | [source, target] =>
      let source := Ascii.lower source
      if (m.get? source).isSome then .error (.domainMapping number "duplicate source domain")
      else .ok ⟨m.entries ++ [(source, Ascii.lower target)]⟩
    | _ => .error (.domainMapping number "expected 'source_domain target_domain'")

/-- The map with the entries of more lines, of which the first is the line number `number`. -/
def addLines (m : DomainMap) (number : Nat) : List String → Except ConfigError DomainMap
  | [] => .ok m
  | line :: rest => do
    let m ← m.addLine number line
    addLines m (number + 1) rest

/-- Reads a domain map. -/
def parse (blob : String) : Except ConfigError DomainMap := addLines empty 1 (Text.lines blob)

end DomainMap

namespace Denylist

/-- The entries of a denylist, each once. -/
def parse (blob : String) : List String := (Text.words blob).eraseDups

end Denylist

end ProxyFilter
