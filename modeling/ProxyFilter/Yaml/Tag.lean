import ProxyFilter.Yaml.Plain

/-!
# Tags

A tag says what kind of value a scalar is. It is written in full, or with a handle for which a
directive may set the beginning (`Handles.ofDirectives?`). The tags of the core schema decide how a
scalar is read; any other tag leaves it as it is (`Form.value`).
-/

namespace ProxyFilter.Yaml

/-! ## Names -/

/-- Handles and the beginnings that they stand for. -/
abbrev Handles := List (String × String)

/-- The handles of a document that sets none. -/
def Handles.usual : Handles := [("!", "!"), ("!!", "tag:yaml.org,2002:")]

/-- A character of a word in a handle. -/
def isHandleChar (c : Char) : Bool := c.isAlphanum || c == '-'

/-- A text is a handle. -/
def isHandle (text : List Char) : Bool :=
  match text with
  | ['!'] | ['!', '!'] => true
  | '!' :: rest =>
    rest.getLast? == some '!' && ! rest.dropLast.isEmpty && rest.dropLast.all isHandleChar
  | _ => false

/-- A character of a tag behind its handle. -/
def isTagChar (c : Char) : Bool :=
  c.isAlphanum || ['-', '#', ';', '/', '?', ':', '@', '&', '=', '+', '$', '_', '.', '~', '*', '\'',
    '(', ')', '%'].contains c

/-- A character of a tag that is written in full. -/
def isFullTagChar (c : Char) : Bool := isTagChar c || ['!', ',', '[', ']'].contains c

/-- The name of a tag that is written with a handle. -/
def Handles.expand? (handles : Handles) (handle suffix : List Char) : Option String :=
  if suffix.all isTagChar then
    (handles.lookup (String.ofList handle)).map (· ++ String.ofList suffix)
  else none

/-- The name of a tag from its text after the first exclamation mark. A lone mark is a tag of its
own. -/
def Handles.resolve? (handles : Handles) (text : List Char) : Option String :=
  match text with
  | [] => some "!"
  | '<' :: rest =>
    if rest.getLast? == some '>' && ! rest.dropLast.isEmpty && rest.dropLast.all isFullTagChar then
      some (String.ofList rest.dropLast)
    else none
  | text =>
    let word := text.takeWhile isHandleChar
    match text.drop word.length with
    | '!' :: suffix =>
      if suffix.isEmpty then none else handles.expand? ('!' :: word ++ ['!']) suffix
    | _ => handles.expand? ['!'] text

/-! ## Directives -/

/-- The words of a directive in its line; a comment is none of it. -/
def Directive.words (line : List Char) : List String :=
  let words := (line.splitOnP Plain.isBlank).filter fun word => ! word.isEmpty
  (words.takeWhile fun word => word.head? != some '#').map String.ofList

/-- A number of a version. -/
def isVersion (text : String) : Bool :=
  match text.toList.splitOn '.' with
  | [major, minor] =>
    ! major.isEmpty && major.all Char.isDigit && ! minor.isEmpty && minor.all Char.isDigit
  | _ => false

/-- Handles after a directive. One that is not known is left out. -/
def Handles.after? (handles : Handles) : List String → Option Handles
  | ["%YAML", version] => if isVersion version then some handles else none
  | ["%TAG", handle, start] =>
    if isHandle handle.toList then some ((handle, start) :: handles) else none
  | "%YAML" :: _ | "%TAG" :: _ => none
  | _ => some handles

/-- The handles that the directives of a document set. The version is told once at most. -/
def Handles.ofDirectives? (directives : List (List String)) : Option Handles :=
  if 1 < (directives.filter fun d => d.head? == some "%YAML").length then none
  else directives.foldlM Handles.after? usual

/-! ## Forms -/

/-- How a scalar is read. -/
inductive Form
  /-- As its characters tell. -/
  | plain
  /-- As a text. -/
  | text
  /-- As a null. -/
  | null
  /-- As a truth value. -/
  | bool
  /-- As an integer. -/
  | integer
  /-- As a number of any kind. -/
  | decimal
  deriving DecidableEq, Repr

namespace Form

/-- The forms that the tags of the core schema ask for. -/
def ofCoreTag : List (String × Form) :=
  [("!", text), ("tag:yaml.org,2002:str", text), ("tag:yaml.org,2002:null", null),
    ("tag:yaml.org,2002:bool", bool), ("tag:yaml.org,2002:int", integer),
    ("tag:yaml.org,2002:float", decimal)]

/-- The form of a scalar with or without quotes, and perhaps a tag. -/
def ofTag (inQuotes : Bool) (tag : Option String) : Form :=
  (tag.bind fun name => ofCoreTag.lookup name).getD (if inQuotes then text else plain)

/-- The value of a scalar that is read in a form. One that does not have the form has no value. -/
def value (form : Form) (text : String) : Document :=
  match form, Plain.value text with
  | .plain, d => d
  | .text, _ => .text text
  | .null, .null => .null
  | .bool, .bool b => .bool b
  | .integer, .integer n => .integer n
  | .decimal, .integer n => .decimal (if 0 ≤ n then some n.toNat else none)
  | .decimal, .decimal whole => .decimal whole
  | _, _ => .unreadable

end Form

end ProxyFilter.Yaml
