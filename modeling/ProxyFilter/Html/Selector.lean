import ProxyFilter.Config.Error
import ProxyFilter.Html.Tag
import ProxyFilter.Text.Ascii
import ProxyFilter.Text.Blank
import ProxyFilter.Text.Split

/-!
# Element selectors

A selector is `tag`, `*`, `tag[attribute]` or `*[attribute]`. It is read by `Selector.parse` and
matches a start tag by element name and by the presence of the attribute, letter case ignored.
-/

namespace ProxyFilter.Html

/-- Which start tags a rule is for. -/
structure Selector where
  /-- The element name in lower case; none for any. -/
  tag : Option String
  /-- The name, in lower case, of an attribute that must be there. -/
  requiredAttribute : Option String
  deriving DecidableEq, Repr

namespace Selector

/-- A name in a selector: letters, digits, `-`, `_` and `:`. -/
def isName (s : String) : Bool :=
  ! s.isEmpty && s.toList.all fun c => c.isAlphanum || c == '-' || c == '_' || c == ':'

/-- A name in lower case. -/
def name? (s : String) : Option String := if isName s then some (Ascii.lower s) else none

/-- Reads the part before the bracket: a name, or `*` for any element. -/
def tag? (s : String) : Option (Option String) :=
  if s = "*" then some none else (name? s).map some

/-- What stands before the bracket that ends a text, if one does. -/
def beforeBracket? (s : String) : Option String :=
  if s.toList.getLast? = some ']' then some (String.ofList s.toList.dropLast) else none

/-- Reads a selector. -/
def parse? (text : String) : Option Selector :=
  let text := Text.trim text
  match Text.splitOnce? '[' text with
  | none => (tag? text).map fun tag => ⟨tag, none⟩
  | some (before, after) => do
    let inside ← beforeBracket? after
    let tag ← tag? before
    let required ← name? inside
    return ⟨tag, some required⟩

/-- Reads a selector of a configuration. -/
def parse (text : String) : Except ConfigError Selector :=
  match parse? text with
  | some s => .ok s
  | none => .error (.selector text)

/-- The selector is for this tag. -/
def isFor (s : Selector) (t : StartTag) : Bool :=
  (match s.tag with
    | some name => Bytes.sameName t.name (Utf8.encode name)
    | none => true)
  && (match s.requiredAttribute with
    | some name => (t.find? name).isSome
    | none => true)

end Selector

end ProxyFilter.Html
