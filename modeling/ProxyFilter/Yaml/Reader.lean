import ProxyFilter.Yaml.BlockScalar
import ProxyFilter.Yaml.Node
import ProxyFilter.Yaml.Scalar

/-!
# YAML texts

`Document.ofYaml?` reads the first document of a YAML text: mappings, sequences and scalars in block
or flow style, with comments, tags, names for nodes and directives. What stands behind the document
is not looked at.

A block collection begins where a node may begin with its line, or in the same line after the mark
of an item or of an explicit key; its column then tells which nodes are part of it. A node that
goes over several lines is indented more than the collection that it is part of. Reading a node in a
block collection ends at the next content. A name for a node inside a named node is not known
outside of it.
-/

namespace ProxyFilter.Yaml

open Plain

/-- Where reading stands. -/
structure State where
  cursor : Cursor
  /-- More than the number of characters in the text. -/
  size : Nat
  /-- The nodes with a name, the last one first. -/
  anchors : List (String × Node)
  handles : Handles

/-- A step of reading, which fails at what is not YAML. -/
abbrev Read := StateT State Option

/-- What stands before a node: its name and its tag. -/
structure Properties where
  anchor : Option String
  tag : Option String
  deriving DecidableEq, Repr

/-- A node with neither a name nor a tag. -/
def Properties.none : Properties := ⟨.none, .none⟩

/-! ## Steps -/

/-- The place that is reached. -/
def cursor : Read Cursor := return (← get).cursor

/-- Goes on at a place. -/
def goTo (c : Cursor) : Read Unit := modify fun s => { s with cursor := c }

/-- Goes past so many characters. -/
def advance (count : Nat) : Read Unit := do goTo ((← cursor).advance count)

/-- Goes past the blanks in the line. -/
def skipBlanks : Read Unit := do goTo (← cursor).blanks.2

/-- Goes on at the next content, which is not in the same line. -/
def endLine : Read Unit := do
  let c ← cursor
  let next := c.skip
  if next.line == c.line && ! next.isEnd then failure
  goTo next

/-- Goes on at the next content between brackets, in a line that is indented so far at least. -/
def separate (least : Nat) : Read Unit := do
  let c ← cursor
  let next := c.skip
  if next.line != c.line && ! next.isWithin least then failure
  goTo next

/-! ## Names and tags -/

/-- A character of a name or a tag. -/
def isWordChar (c : Char) : Bool := ! (isBlank c || isBreak c || isFlowMark c)

/-- Reads a name after its mark. -/
def anchor : Read String := do
  let (name, next) := (← cursor).span isWordChar
  goTo next
  if name.isEmpty then failure else return String.ofList name

/-- Reads a tag after its first mark. -/
def tag : Read String := do
  let c ← cursor
  let (text, next) :=
    if c.rest.head? == some '<' then c.span fun x => ! (isBlank x || isBreak x)
    else c.span isWordChar
  goTo next
  (← get).handles.resolve? text

/-- The place is behind a name or a tag that is complete. -/
def isAfterWord (context : Context) (c : Cursor) : Bool :=
  match c.rest with
  | [] => true
  | x :: _ => isBlank x || isBreak x || (context == .flow && [',', ']', '}'].contains x)

/-- Reads a name or a tag if one stands here. Each stands once before a node. -/
def property? (context : Context) (p : Properties) : Read (Option Properties) := do
  match (← cursor).rest with
  | '&' :: _ =>
    advance 1
    let name ← anchor
    if p.anchor.isSome || ! isAfterWord context (← cursor) then failure
    return some { p with anchor := some name }
  | '!' :: _ =>
    advance 1
    let name ← tag
    if p.tag.isSome || ! isAfterWord context (← cursor) then failure
    return some { p with tag := some name }
  | _ => return none

/-- The node with a name, which is read after its mark. It has no properties of its own. -/
def aliased (p : Properties) : Read Node := do
  let name ← anchor
  if p != .none then failure
  (← get).anchors.lookup name

/-- Gives a node its name, where `anchors` were known before the node was read. -/
def register (anchors : List (String × Node)) (p : Properties) (node : Node) : Read Unit :=
  match p.anchor with
  | none => return
  | some name => modify fun s => { s with anchors := (name, node) :: anchors }

/-- Leaves a node out. -/
def leaveOut (p : Properties) : Read Node := do
  register (← get).anchors p (.missing p.tag)
  return .missing p.tag

/-! ## Scalars -/

/-- Reads a scalar in quotes. -/
def quoted (least : Nat) (p : Properties) : Read Node := do
  let c ← cursor
  let (text, next) ←
    if c.rest.head? == some '"' then (c.advance 1).doubleQuoted? least (← get).size
    else (c.advance 1).singleQuoted? least (← get).size
  goTo next
  return .scalar true p.tag text

/-- Reads a scalar without quotes. -/
def unquoted (context : Context) (least : Nat) (p : Properties) : Read Node := do
  let c ← cursor
  if ! mayBegin context c.rest then failure
  let (text, next) := c.plain context least (← get).size
  goTo next
  return .scalar false p.tag text

/-- Reads a scalar without quotes that does not go beyond its line. -/
def unquotedLine (p : Properties) : Read Node := do
  let c ← cursor
  if ! mayBegin .block c.rest then failure
  let (text, next) := c.plainLine .block
  goTo next
  return .scalar false p.tag (String.ofList text)

/-- Reads a scalar under a bar or an angle. -/
def underMark (folded : Bool) (least : Nat) (p : Properties) : Read Node := do
  let (text, next) ← BlockScalar.read? folded least (← get).size ((← cursor).advance 1)
  goTo next
  return .scalar true p.tag text

/-! ## Flow collections -/

/-- A colon stands here that ends a key. After a key in quotes or brackets the value may follow at
once. -/
def isColon (closed : Bool) (c : Cursor) : Bool :=
  c.isMark .flow ':' || (closed && c.rest.head? == some ':')

/-- The node that would begin here is left out. -/
def isMissing (c : Cursor) : Bool := c.isMark .flow ':' || c.rest.head?.any [',', ']', '}'].contains

/-- Goes past a comma, or stays before the closing mark. -/
def comma (closing : Char) : Read Unit := do
  match (← cursor).rest with
  | ',' :: _ => advance 1
  | x :: _ => if x != closing then failure
  | [] => failure

mutual

/-- Reads a node in a flow collection, and whether it is in quotes or brackets. At most `depth`
collections are in each other. -/
def flowNode (least depth : Nat) (p : Properties) : Nat → Read (Node × Bool)
  | 0 => failure
  | fuel + 1 => do
    match ← property? .flow p with
    | some p => do
      separate least
      if isMissing (← cursor) then return (← leaveOut p, false) else flowNode least depth p fuel
    | none => do
      let anchors := (← get).anchors
      let result ← flowContent least depth p fuel
      register anchors p result.1
      return result
termination_by structural fuel => fuel

/-- Reads a node in a flow collection after its properties. -/
def flowContent (least depth : Nat) (p : Properties) : Nat → Read (Node × Bool)
  | 0 => failure
  | fuel + 1 => do
    match (← cursor).rest with
    | '[' :: _ => do
      if depth = 0 then failure
      advance 1
      return (← flowItems least (depth - 1) fuel [], true)
    | '\x7b' :: _ => do
      if depth = 0 then failure
      advance 1
      return (← flowFields least (depth - 1) fuel [], true)
    | '*' :: _ => do
      advance 1
      return (← aliased p, false)
    | '"' :: _ | '\'' :: _ => return (← quoted least p, true)
    | _ => return (← unquoted .flow least p, false)
termination_by structural fuel => fuel

/-- Reads the items of a sequence after those that are read, which are reversed. -/
def flowItems (least depth : Nat) : Nat → List Node → Read Node
  | 0, _ => failure
  | fuel + 1, items => do
    separate least
    match (← cursor).rest with
    | ']' :: _ => do
      advance 1
      return .ofItems items.reverse
    | _ => do
      let item ← flowItem least depth fuel
      comma ']'
      flowItems least depth fuel (item :: items)
termination_by structural fuel => fuel

/-- Reads an item. A key with a value is a mapping of its own; the key is in one line with its
colon. -/
def flowItem (least depth : Nat) : Nat → Read Node
  | 0 => failure
  | fuel + 1 => do
    let c ← cursor
    if c.isMark .block '?' then do
      return .ofFields [← flowExplicit least depth fuel]
    else if c.isMark .flow ':' then do
      return .ofFields [(.missing none, ← flowValue least depth fuel)]
    else do
      let (key, closed) ← flowNode least depth .none fuel
      let next := (← cursor).skip
      if isColon closed next && next.line == c.line then do
        goTo next
        return .ofFields [(key, ← flowValue least depth fuel)]
      else do
        separate least
        return key
termination_by structural fuel => fuel

/-- Reads the fields of a mapping after those that are read, which are reversed. -/
def flowFields (least depth : Nat) : Nat → List (Node × Node) → Read Node
  | 0, _ => failure
  | fuel + 1, entries => do
    separate least
    let c ← cursor
    match c.rest with
    | '\x7d' :: _ => do
      advance 1
      return .ofFields entries.reverse
    | _ => do
      let entry ← if c.isMark .block '?' then flowExplicit least depth fuel
        else flowEntry least depth fuel
      comma '\x7d'
      flowFields least depth fuel (entry :: entries)
termination_by structural fuel => fuel

/-- Reads a key and its value after the mark of an explicit key. -/
def flowExplicit (least depth : Nat) : Nat → Read (Node × Node)
  | 0 => failure
  | fuel + 1 => do
    advance 1
    separate least
    flowEntry least depth fuel
termination_by structural fuel => fuel

/-- Reads a key and its value, each of which may be left out. -/
def flowEntry (least depth : Nat) : Nat → Read (Node × Node)
  | 0 => failure
  | fuel + 1 => do
    let (key, closed) ← if isMissing (← cursor) then pure (.missing none, false)
      else flowNode least depth .none fuel
    separate least
    if isColon closed (← cursor) then return (key, ← flowValue least depth fuel)
    else return (key, .missing none)
termination_by structural fuel => fuel

/-- Reads a value with its colon. -/
def flowValue (least depth : Nat) : Nat → Read Node
  | 0 => failure
  | fuel + 1 => do
    advance 1
    separate least
    if isMissing (← cursor) then return .missing none
    else do
      let (node, _) ← flowNode least depth .none fuel
      separate least
      return node
termination_by structural fuel => fuel

end

/-! ## Keys in block mappings -/

/-- Reads the properties of a key, `count` at most. -/
def keyProperties (p : Properties) : Nat → Read Properties
  | 0 => return p
  | count + 1 => do
    match ← property? .block p with
    | some p => do
      skipBlanks
      keyProperties p count
    | none => return p

/-- Reads a key after its properties. -/
def keyContent (depth fuel : Nat) (p : Properties) : Read Node := do
  let c ← cursor
  match c.rest with
  | '*' :: _ => do
    advance 1
    aliased p
  | '"' :: _ | '\'' :: _ => quoted 0 p
  | '[' :: _ | '\x7b' :: _ => do
    let (node, _) ← flowContent 0 depth p fuel
    return node
  | _ => if c.isMark .block ':' then return .missing p.tag else unquotedLine p

/-- Reads a key with its colon, all in one line. -/
def key (depth fuel : Nat) : Read Node := do
  let start ← cursor
  if start.column == 0 && start.rest.head? == some '%' then failure
  let p ← keyProperties .none 2
  let anchors := (← get).anchors
  let node ← keyContent depth fuel p
  register anchors p node
  skipBlanks
  let c ← cursor
  if c.line != start.line || ! c.isMark .block ':' then failure
  advance 1
  return node

/-- A field of a mapping begins here. -/
def isField (depth fuel : Nat) : Read Bool := do
  return (← cursor).isMark .block '?' || ((key depth fuel).run (← get)).isSome

/-! ## Block collections -/

/-- Reads a scalar or a flow collection, up to the next content. -/
def unstructured (least depth fuel : Nat) (p : Properties) : Read Node := do
  match (← cursor).rest with
  | '|' :: _ => do
    let node ← underMark false least p
    goTo (← cursor).skip
    return node
  | '>' :: _ => do
    let node ← underMark true least p
    goTo (← cursor).skip
    return node
  | '[' :: _ | '\x7b' :: _ | '*' :: _ => do
    let (node, _) ← flowContent least depth p fuel
    endLine
    return node
  | '"' :: _ | '\'' :: _ => do
    let node ← quoted least p
    endLine
    return node
  | _ => do
    let node ← unquoted .block least p
    endLine
    return node

/-- A collection in this column goes on here. -/
def isNext (own : Nat) (c : Cursor) : Bool := c.isWithin own && c.isAligned && c.column == own

mutual

/-- Reads a node that begins here. A block collection may be one if it is `structured`; if it is
`hanging`, the items of a sequence may stand in the column of the collection that the node is part
of. -/
def blockNode (least depth : Nat) (structured hanging : Bool) (p : Properties) : Nat → Read Node
  | 0 => failure
  | fuel + 1 => do
    let c ← cursor
    let anchors := (← get).anchors
    if structured && c.isItem then do
      if depth = 0 then failure
      let node ← blockItems c.column (depth - 1) fuel []
      register anchors p node
      return node
    else if structured && (← isField depth fuel) then do
      if depth = 0 then failure
      let node ← blockFields c.column (depth - 1) fuel []
      register anchors p node
      return node
    else
      match ← property? .block p with
      | some p => blockBelow least depth false hanging p fuel
      | none => do
        let node ← unstructured least depth fuel p
        register anchors p node
        return node
termination_by structural fuel => fuel

/-- Reads a node that begins in this line or below it, or is left out. In this line it may be a
block collection if it is `compact` and only spaces come before it. -/
def blockBelow (least depth : Nat) (compact hanging : Bool) (p : Properties) : Nat → Read Node
  | 0 => failure
  | fuel + 1 => do
    let c ← cursor
    let next := c.skip
    goTo next
    if next.line == c.line && ! next.isEnd then
      blockNode least depth (compact && ! c.blanks.1.contains '\t') hanging p fuel
    else if next.isWithin least then blockNode least depth next.isAligned hanging p fuel
    else if hanging && next.column + 1 == least && next.isAligned && next.isItem then
      blockNode least depth true hanging p fuel
    else leaveOut p
termination_by structural fuel => fuel

/-- Reads the items of a sequence after those that are read, which are reversed. -/
def blockItems (own depth : Nat) : Nat → List Node → Read Node
  | 0, _ => failure
  | fuel + 1, items => do
    advance 1
    let item ← blockBelow (own + 1) depth true false .none fuel
    let c ← cursor
    if isNext own c && c.isItem then blockItems own depth fuel (item :: items)
    else return .ofItems (item :: items).reverse
termination_by structural fuel => fuel

/-- Reads the fields of a mapping after those that are read, which are reversed. -/
def blockFields (own depth : Nat) : Nat → List (Node × Node) → Read Node
  | 0, _ => failure
  | fuel + 1, entries => do
    let entry ← blockEntry own depth fuel
    if isNext own (← cursor) then blockFields own depth fuel (entry :: entries)
    else return .ofFields (entry :: entries).reverse
termination_by structural fuel => fuel

/-- Reads a key and its value. -/
def blockEntry (own depth : Nat) : Nat → Read (Node × Node)
  | 0 => failure
  | fuel + 1 => do
    if (← cursor).isMark .block '?' then do
      advance 1
      let key ← blockBelow (own + 1) depth true true .none fuel
      let c ← cursor
      if isNext own c && c.isMark .block ':' then do
        advance 1
        return (key, ← blockBelow (own + 1) depth true true .none fuel)
      else return (key, .missing none)
    else do
      let key ← key depth fuel
      return (key, ← blockBelow (own + 1) depth false true .none fuel)
termination_by structural fuel => fuel

end

/-! ## Texts -/

/-- Reads the directives before a document, and whether there are any. -/
def directives (found : List (List String)) : Nat → Read (List (List String))
  | 0 => failure
  | fuel + 1 => do
    let c := (← cursor).skip
    goTo c
    if c.column == 0 && c.rest.head? == some '%' then do
      let (line, next) := c.span fun x => ! isBreak x
      goTo next
      directives (Directive.words line :: found) fuel
    else if found.isEmpty && c.isMarker && c.rest.head? == some '.' then do
      advance 3
      endLine
      directives found fuel
    else return found.reverse

/-- The greatest number of collections in each other. -/
def maxDepth : Nat := 128

/-- Reads the first document of a text, and what ends it. -/
def document (fuel : Nat) : Read Document := do
  let found ← directives [] fuel
  let handles ← Handles.ofDirectives? found
  modify fun s => { s with handles }
  let c ← cursor
  let node ←
    if c.isMarker && c.rest.head? == some '-' then do
      advance 3
      blockBelow 0 maxDepth false false .none fuel
    else if ! found.isEmpty then failure
    else if c.isEnd || c.isMarker then leaveOut .none
    else blockNode 0 maxDepth c.isAligned false .none fuel
  let c ← cursor
  if c.isEnd then return node.document
  if ! c.isMarker then failure
  if c.rest.head? == some '.' then do
    advance 3
    endLine
  return node.document

/-- The text without the mark of the byte order. -/
def dropOrderMark : List Char → List Char
  | '\ufeff' :: rest => rest
  | rest => rest

/-- A text in which no line feed follows a return. -/
def joinReturns : List Char → List Char
  | [] => []
  | '\r' :: '\n' :: rest => '\n' :: joinReturns rest
  | c :: rest => c :: joinReturns rest

end Yaml

/-- Reads the first document of a text that is written in YAML. -/
def Document.ofYaml? (text : String) : Option Document :=
  let chars := Yaml.joinReturns (Yaml.dropOrderMark text.toList)
  let size := chars.length + 4
  ((Yaml.document (4 * size)).run ⟨.start chars, size, [], .usual⟩).map (·.1)

end ProxyFilter
