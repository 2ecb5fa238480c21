import ProxyFilter.Html.Markup
import ProxyFilter.Html.Selector

/-!
# Editing markup streams

An `Editor` holds rules that change attribute values and rules that put markup after the first start
tag of a kind. It sees a body as a stream of chunks: `Editor.feed` gives out every octet that is
settled and keeps a construct that the chunk cuts in the `StreamState`; `Editor.finish` gives out
what is kept. Text, comments, declarations, end tags and the contents of scripts and styles pass
through as they are, and so does a tag on which no rule changes a value.

`Editor.scan` goes over the octets at hand piece by piece (`Editor.step`). Once every rule has done
all it can do the stream is complete, and the rest passes through unread.
-/

namespace ProxyFilter.Html

/-! ## Rules -/

/-- A rule that changes the value of an attribute. -/
structure AttributeRule where
  /-- The tags that the rule is for. -/
  selector : Selector
  /-- The name of the attribute, in lower case. -/
  target : String
  /-- The new value for a value, or nothing to leave it. -/
  transform : String → Option String

/-- A rule that puts markup after the first start tag of a kind. -/
structure InjectRule where
  /-- The tags that the rule is for. -/
  selector : Selector
  /-- The markup, as it is sent. -/
  markup : Bytes

/-- The least limit on the octets of one construct. -/
def minLimit : Nat := 16

/-- The limit where none is given. -/
def defaultLimit : Nat := 16384

/-- The rules for a kind of stream. -/
structure Editor where
  attributeRules : List AttributeRule
  injectRules : List InjectRule
  /-- The greatest number of octets of one construct. -/
  limit : Nat

namespace Editor

/-- The editor without rules. -/
def empty : Editor := ⟨[], [], defaultLimit⟩

/-- With another limit, which is raised to the least one where it is below. -/
def withLimit (r : Editor) (limit : Nat) : Editor := { r with limit := max limit minLimit }

/-- With one more rule for an attribute. -/
def editAttribute (r : Editor) (selector : Selector) (name : String)
    (transform : String → Option String) : Editor :=
  { r with attributeRules := r.attributeRules ++ [⟨selector, Ascii.lower name, transform⟩] }

/-- With one more rule that puts markup after a start tag. -/
def injectAfter (r : Editor) (selector : Selector) (markup : String) : Editor :=
  { r with injectRules := r.injectRules ++ [⟨selector, Utf8.encode markup⟩] }

/-- There are no rules. -/
def isEmpty (r : Editor) : Bool := r.attributeRules.isEmpty && r.injectRules.isEmpty

/-- The editor in one line: how many rules there are, and the limit. -/
def summary (r : Editor) : String :=
  "HtmlRewriter \x7b attribute_rules: " ++ toString r.attributeRules.length
    ++ ", inject_rules: " ++ toString r.injectRules.length
    ++ ", max_tag_bytes: " ++ toString r.limit ++ " \x7d"

end Editor

/-! ## Changing a tag -/

/-- The new texts for values of a tag, by the place of the attribute. -/
abbrev Edits := List (Nat × String)

/-- The text that an attribute has after the edits so far, read from the tag where it has none. -/
def currentText? (edits : Edits) (place : Nat) (v : AttributeValue) : Option String :=
  match edits.lookup place with
  | some text => some text
  | none => Utf8.decode? v.inner

/-- The edits after one more rule. A rule that leaves a value as it is makes no edit. -/
def AttributeRule.edit (tag : StartTag) (edits : Edits) (rule : AttributeRule) :
    Except StreamError Edits :=
  if ! rule.selector.isFor tag then .ok edits
  else
    match tag.find? rule.target with
    | none => .ok edits
    | some place =>
      match (tag.attributes[place]?).bind TagAttribute.value with
      | none => .ok edits
      | some v =>
        match currentText? edits place v with
        | none => .error (.invalidUtf8 rule.target)
        | some current =>
          match rule.transform current with
          | none => .ok edits
          | some text =>
            if text = current then .ok edits
            else .ok ((place, text) :: edits.filter fun e => e.1 != place)

/-- The tag with edited values. -/
def StartTag.withEdits (tag : StartTag) (edits : Edits) : StartTag :=
  { tag with
    attributes := tag.attributes.mapIdx fun place a =>
      match edits.lookup place with
      | some text => a.replace text
      | none => a }

/-- The tag after all rules for attributes, applied in order. -/
def Editor.editTag (r : Editor) (tag : StartTag) : Except StreamError StartTag :=
  (r.attributeRules.foldlM (AttributeRule.edit tag) []).map tag.withEdits

/-! ## The state of a stream -/

/-- How the octets that come next are read. -/
inductive Mode
  /-- As text and markup. -/
  | data
  /-- As the contents of a script or style. -/
  | raw (kind : RawText)
  deriving DecidableEq, Repr

/-- What scanning has to remember from one construct to the next. -/
structure Scanner where
  mode : Mode
  /-- Which markup has been put in, rule by rule. -/
  injected : List Bool
  /-- No rule can change what is left of the stream. -/
  complete : Bool
  deriving DecidableEq, Repr

/-- The state of one stream. -/
structure StreamState where
  /-- The octets of a construct that the last chunk cut. -/
  pending : Bytes
  /-- Settled octets that have not been given out, because an error came between. -/
  out : Bytes
  scanner : Scanner
  /-- No more chunks are taken. -/
  finished : Bool
  deriving DecidableEq, Repr

/-- The state in which a stream begins. -/
def Editor.start (r : Editor) : StreamState where
  pending := []
  out := []
  scanner := { mode := .data, injected := r.injectRules.map fun _ => false, complete := r.isEmpty }
  finished := false

/-- The state after everything kept is thrown away and the stream is ended. -/
def StreamState.release (s : StreamState) : StreamState :=
  { s with pending := [], out := [], finished := true }

/-! ## Scanning -/

/-- The markup that rules put after a tag, and which rules have then done so. -/
def injections (tag : StartTag) : List InjectRule → List Bool → Bytes × List Bool
  | rule :: rules, done :: dones =>
    let (markup, after) := injections tag rules dones
    if ! done && rule.selector.isFor tag then (rule.markup ++ markup, true :: after)
    else (markup, done :: after)
  | _, dones => ([], dones)

/-- The mode after a start tag. -/
def modeAfter (tag : StartTag) : Mode :=
  if tag.selfClosing then .data
  else
    match RawText.ofName? tag.name with
    | some kind => .raw kind
    | none => .data

/-- What one step of scanning does with the octets at hand. -/
inductive Step
  /-- Some octets are settled; scanning goes on with the rest. -/
  | advance (out : Bytes) (scanner : Scanner) (rest : Bytes)
  /-- Some octets are settled, and the rest cannot be settled yet. -/
  | wait (out : Bytes) (rest : Bytes)
  /-- Some octets are settled, and scanning fails at what follows them. -/
  | fail (out : Bytes) (error : StreamError)

/-- The step at a start tag. -/
def Editor.stepTag (r : Editor) (s : Scanner) (text : Bytes) (tag : StartTag) (rest : Bytes) :
    Step :=
  match r.editTag tag with
  | .error e => .fail text e
  | .ok changed =>
    let (markup, injected) := injections tag r.injectRules s.injected
    .advance (text ++ changed.source ++ markup)
      { mode := modeAfter tag, injected,
        complete := r.attributeRules.isEmpty && injected.all id }
      rest

/-- The step at text and markup. -/
def Editor.stepData (r : Editor) (s : Scanner) (b : Bytes) : Step :=
  let (text, rest) := splitWhen (· == 60) b
  if rest.isEmpty then .advance text s []
  else
    match Markup.next r.limit rest with
    | .error e => .fail text e
    | .ok .undecided => .wait text rest
    | .ok (.verbatim octets rest) => .advance (text ++ octets) s rest
    | .ok (.startTag tag rest) => r.stepTag s text tag rest

/-- The step inside a script or style. -/
def stepRaw (kind : RawText) (s : Scanner) (b : Bytes) : Step :=
  match RawText.findEnd kind.closing b with
  | .found before rest => .advance before { s with mode := .data } rest
  | .pending before rest => if rest.isEmpty then .advance before s [] else .wait before rest

/-- One step of scanning. -/
def Editor.step (r : Editor) (s : Scanner) (b : Bytes) : Step :=
  if s.complete then .advance b s []
  else
    match s.mode with
    | .data => r.stepData s b
    | .raw kind => stepRaw kind s b

/-- What scanning makes of the octets at hand. -/
structure Scanned where
  /-- The octets that are settled, in their new form. -/
  out : Bytes
  scanner : Scanner
  /-- The octets that are not settled, or why scanning failed. -/
  rest : Except StreamError Bytes

/-- More settled octets in front. -/
def Scanned.prepend (out : Bytes) (s : Scanned) : Scanned := { s with out := out ++ s.out }

/-- Scans the octets at hand, in `fuel` steps at most. -/
def Editor.scanLoop (r : Editor) : Nat → Scanner → Bytes → Scanned
  | 0, s, b => ⟨[], s, .ok b⟩
  | fuel + 1, s, b =>
    if b.isEmpty then ⟨[], s, .ok []⟩
    else
      match r.step s b with
      | .advance out s rest => (r.scanLoop fuel s rest).prepend out
      | .wait out rest => ⟨out, s, .ok rest⟩
      | .fail out e => ⟨out, s, .error e⟩

/-- Scans the octets at hand. Of two steps in a row at least one settles an octet. -/
def Editor.scan (r : Editor) (s : Scanner) (b : Bytes) : Scanned :=
  r.scanLoop (2 * b.length + 2) s b

/-! ## Streams -/

/-- Takes one chunk: the state after it, and the octets that are now settled. After an error the
octets at hand are gone, and those settled before it are given out with the next chunk. -/
def Editor.feed (r : Editor) (s : StreamState) (chunk : Bytes) :
    StreamState × Except StreamError Bytes :=
  if s.finished then (s, .error .alreadyFinished)
  else
    let scanned := r.scan s.scanner (s.pending ++ chunk)
    let out := s.out ++ scanned.out
    match scanned.rest with
    | .ok rest => ({ s with pending := rest, out := [], scanner := scanned.scanner }, .ok out)
    | .error e => ({ s with pending := [], out, scanner := scanned.scanner }, .error e)

/-- Ends a stream: the state after it, and all octets that were kept, as they are. -/
def Editor.finish (r : Editor) (s : StreamState) : StreamState × Except StreamError Bytes :=
  if s.finished then (s, .ok [])
  else
    let scanned := r.scan s.scanner s.pending
    let out := s.out ++ scanned.out
    match scanned.rest with
    | .ok rest =>
      ({ s with pending := [], out := [], scanner := scanned.scanner, finished := true },
        .ok (out ++ rest))
    | .error e => ({ s with pending := [], out, scanner := scanned.scanner }, .error e)

/-- Edits a whole body. -/
def Editor.editDocument (r : Editor) (body : Bytes) : Except StreamError Bytes := do
  let (s, fed) := r.feed r.start body
  let head ← fed
  let tail ← (r.finish s).2
  return head ++ tail

end ProxyFilter.Html
