import ProxyFilter.Text.Utf8

/-!
# Start tags

A start tag is kept with every octet it was written with: its name, its attributes, each with the
gap before it, and the end. `StartTag.source` puts the octets together again, and
`StartTag.parse?` reads a tag from the octets after its `<`, so that what is read and what is left
make up what was given. A value changes only through `AttributeValue.replace`, which quotes it so
that it is read back as one value.
-/

namespace ProxyFilter.Html

/-- The mark at either end of a quoted value. -/
inductive Quote
  | double
  | single
  deriving DecidableEq, Repr

/-- The octet of a quote. -/
def Quote.octet : Quote → UInt8
  | .double => 34
  | .single => 39

/-- The quote that an octet is. -/
def Quote.ofOctet? (b : UInt8) : Option Quote :=
  if b = 34 then some .double else if b = 39 then some .single else none

/-- How a quote is written inside a value that it encloses: `&quot;` or `&#39;`. -/
def Quote.reference : Quote → Bytes
  | .double => [38, 113, 117, 111, 116, 59]
  | .single => [38, 35, 51, 57, 59]

/-- The value of an attribute. -/
structure AttributeValue where
  /-- The blanks and the `=` between the name and the value. -/
  lead : Bytes
  /-- The quote around the value, if any. -/
  quote : Option Quote
  /-- The value without its quotes. -/
  inner : Bytes
  deriving DecidableEq, Repr

/-- An attribute of a tag. -/
structure TagAttribute where
  /-- The blanks and slashes before the attribute. -/
  gap : Bytes
  /-- The name, as it was written. -/
  name : Bytes
  /-- The value, if any. -/
  value : Option AttributeValue
  deriving DecidableEq, Repr

/-- A start tag. -/
structure StartTag where
  /-- The name of the element, as it was written. -/
  name : Bytes
  /-- The attributes, in order. -/
  attributes : List TagAttribute
  /-- The blanks and slashes before the end, without the slash of a self-closing tag. -/
  gap : Bytes
  /-- The tag ends in `/>`. -/
  selfClosing : Bool
  deriving DecidableEq, Repr

/-! ## Writing -/

/-- The quote octet, or nothing. -/
def quoteOctets (q : Option Quote) : Bytes :=
  match q with
  | some q => [q.octet]
  | none => []

/-- The value with its quotes. -/
def AttributeValue.outer (v : AttributeValue) : Bytes :=
  quoteOctets v.quote ++ v.inner ++ quoteOctets v.quote

/-- The octets of an attribute after its gap. -/
def TagAttribute.body (a : TagAttribute) : Bytes :=
  match a.value with
  | some v => a.name ++ v.lead ++ v.outer
  | none => a.name

/-- The octets of an attribute. -/
def TagAttribute.source (a : TagAttribute) : Bytes := a.gap ++ a.body

/-- The octets after the name and the attributes of a tag. -/
def StartTag.ending (t : StartTag) : Bytes := t.gap ++ if t.selfClosing then [47, 62] else [62]

/-- The octets of a tag. -/
def StartTag.source (t : StartTag) : Bytes :=
  60 :: t.name ++ t.attributes.flatMap TagAttribute.source ++ t.ending

/-! ## Reading -/

/-- The octet ends the name of an element. -/
def endsElementName (b : UInt8) : Bool := Byte.isSpace b || b == 47 || b == 62

/-- The octet ends the name of an attribute. -/
def endsAttributeName (b : UInt8) : Bool := Byte.isSpace b || b == 62 || b == 47 || b == 61

/-- The octet ends a value without quotes. -/
def endsBareValue (b : UInt8) : Bool := Byte.isSpace b || b == 62

/-- The octets before the first one that satisfies `p`, and those from it on. -/
def splitWhen (p : UInt8 → Bool) (b : Bytes) : Bytes × Bytes :=
  (b.takeWhile fun x => ! p x, b.dropWhile fun x => ! p x)

/-- The blanks that octets begin with, and the rest. -/
def splitSpaces (b : Bytes) : Bytes × Bytes := (b.takeWhile Byte.isSpace, b.dropWhile Byte.isSpace)

/-- Reads the name of an attribute. An `=` that begins it belongs to it. -/
def attributeName : Bytes → Bytes × Bytes
  | 61 :: rest =>
    let (name, rest) := splitWhen endsAttributeName rest
    (61 :: name, rest)
  | rest => splitWhen endsAttributeName rest

/-- Reads a value with its quotes, or without any up to the next blank or `>`; nothing if the
octets end first. -/
def valueText? (b : Bytes) : Option (Option Quote × Bytes × Bytes) :=
  match b with
  | [] => none
  | x :: rest =>
    match Quote.ofOctet? x with
    | some q =>
      match splitWhen (· == q.octet) rest with
      | (_, []) => none
      | (inner, _ :: rest) => some (some q, inner, rest)
    | none =>
      match splitWhen endsBareValue b with
      | (_, []) => none
      | (inner, rest) => some (none, inner, rest)

/-- Reads what follows the name of an attribute: `=` and a value, or nothing; no result if the
octets end before that is known. -/
def valueAfterName? (b : Bytes) : Option (Option AttributeValue × Bytes) :=
  match splitSpaces b with
  | (_, []) => none
  | (before, x :: rest) =>
    if x = 61 then
      let (after, rest) := splitSpaces rest
      (valueText? rest).map fun (quote, inner, rest) =>
        (some { lead := before ++ 61 :: after, quote, inner }, rest)
    else some (none, b)

/-- What stands between two attributes or before the end of a tag. -/
inductive Gap
  /-- The octets end in the gap. -/
  | unfinished
  /-- The tag ends after the gap. -/
  | tagEnd (gap : Bytes) (selfClosing : Bool) (rest : Bytes)
  /-- An attribute begins after the gap. -/
  | more (gap : Bytes) (rest : Bytes)

/-- One more octet before a gap. -/
def Gap.cons (b : UInt8) : Gap → Gap
  | .unfinished => .unfinished
  | .tagEnd gap selfClosing rest => .tagEnd (b :: gap) selfClosing rest
  | .more gap rest => .more (b :: gap) rest

/-- Reads a gap: blanks, and slashes that no `>` follows. -/
def readGap : Bytes → Gap
  | [] => .unfinished
  | b :: rest =>
    if Byte.isSpace b then (readGap rest).cons b
    else if b = 62 then .tagEnd [] false rest
    else if b = 47 then
      match rest with
      | [] => .unfinished
      | c :: rest₂ => if c = 62 then .tagEnd [] true rest₂ else (readGap (c :: rest₂)).cons b
    else .more [] (b :: rest)

/-- The attributes and the end of a tag. -/
structure TagTail where
  attributes : List TagAttribute
  gap : Bytes
  selfClosing : Bool

/-- Reads the attributes and the end of a tag; nothing if the octets end first. There may be as many
attributes as `bound` has octets, less one. -/
def readTail? : Bytes → Bytes → Option (TagTail × Bytes)
  | [], _ => none
  | _ :: bound, b =>
    match readGap b with
    | .unfinished => none
    | .tagEnd gap selfClosing rest => some (⟨[], gap, selfClosing⟩, rest)
    | .more gap rest =>
      let (name, rest) := attributeName rest
      match valueAfterName? rest with
      | none => none
      | some (value, rest) =>
        (readTail? bound rest).map fun (tail, rest) =>
          ({ tail with attributes := ⟨gap, name, value⟩ :: tail.attributes }, rest)

/-- Reads a start tag from the octets after its `<`, with what is left; nothing if the octets end
before the tag does. Every attribute takes at least one octet, so the octets bound their number. -/
def StartTag.parse? (b : Bytes) : Option (StartTag × Bytes) :=
  let (name, rest) := splitWhen endsElementName b
  (readTail? (60 :: rest) rest).map fun (tail, rest) =>
    ({ name, attributes := tail.attributes, gap := tail.gap, selfClosing := tail.selfClosing },
      rest)

/-! ## Attributes and values -/

/-- The place of the first attribute with a name, letter case ignored. -/
def StartTag.find? (t : StartTag) (name : String) : Option Nat :=
  t.attributes.findIdx? fun a => Bytes.sameName a.name (Utf8.encode name)

/-- The octets that a value without quotes must not have. -/
def needsQuotes (b : UInt8) : Bool :=
  Byte.isSpace b || b == 34 || b == 39 || b == 61 || b == 60 || b == 62 || b == 96

/-- The octets of a value between quotes: each quote of the same kind is written as a reference. -/
def Quote.escape (q : Quote) (b : Bytes) : Bytes :=
  b.flatMap fun x => if x = q.octet then q.reference else [x]

/-- The value with another text. It keeps its quotes, and gets double quotes where it had none and
the text needs them. -/
def AttributeValue.replace (v : AttributeValue) (text : String) : AttributeValue :=
  let octets := Utf8.encode text
  match v.quote with
  | some q => { v with inner := q.escape octets }
  | none =>
    if octets.isEmpty || octets.any needsQuotes then
      { v with quote := some .double, inner := Quote.double.escape octets }
    else { v with inner := octets }

/-- The attribute with another text for its value, if it has a value. -/
def TagAttribute.replace (a : TagAttribute) (text : String) : TagAttribute :=
  { a with value := a.value.map (·.replace text) }

end ProxyFilter.Html
