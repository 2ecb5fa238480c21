import ProxyFilter.Html.Error
import ProxyFilter.Html.Tag

/-!
# Markup constructs

`Markup.next` tells what a stream that begins with `<` begins with: a start tag, another construct
that passes through as it is (comment, declaration, end tag, or a `<` that begins nothing), or
nothing that can be told yet. What it tells of a stream it tells of every longer one. A construct
longer than the limit is an error, whether it has ended or not.

The contents of scripts and styles hold no markup. `RawText.findEnd` finds where they end, or which
octets at the end of the stream might belong to the tag that ends them.
-/

namespace ProxyFilter.Html

/-! ## Constructs that begin with `<` -/

/-- What a stream begins with. -/
inductive Markup
  /-- The stream ends before this can be told. -/
  | undecided
  /-- Octets that pass through unchanged. -/
  | verbatim (octets : Bytes) (rest : Bytes)
  /-- A start tag. -/
  | startTag (tag : StartTag) (rest : Bytes)
  deriving DecidableEq, Repr

namespace Markup

/-- The first octets up to a `>`, after `before`. -/
def throughGt? (before : Bytes) (b : Bytes) : Option (Bytes × Bytes) :=
  match splitWhen (· == 62) b with
  | (_, []) => none
  | (inside, gt :: rest) => some (before ++ inside ++ [gt], rest)

/-- The octets through `-->`, for a comment after its `<!`. The dashes that open a comment may also
close it. -/
def throughCommentEnd? (b : Bytes) : Option (Bytes × Bytes) :=
  (Bytes.splitAtFirst? [45, 45, 62] b).map fun (inside, rest) =>
    (60 :: 33 :: inside ++ [45, 45, 62], rest)

/-- A construct within the limit. -/
def within (limit : Nat) (octets : Bytes) (m : Markup) : Except StreamError Markup :=
  if octets.length > limit then .error (.tagTooLong limit) else .ok m

/-- A construct that passes through, if it has ended, and is within the limit either way. -/
def passThrough (limit : Nat) (b : Bytes) : Option (Bytes × Bytes) → Except StreamError Markup
  | some (octets, rest) => within limit octets (.verbatim octets rest)
  | none => within limit b .undecided

/-- What a stream that begins with `<` begins with. -/
def next (limit : Nat) (b : Bytes) : Except StreamError Markup :=
  match b with
  | [] | [_] => .ok .undecided
  | lt :: x :: rest =>
    if x = 33 then
      if rest = [] ∨ rest = [45] then .ok .undecided
      else if [45, 45].isPrefixOf rest then passThrough limit b (throughCommentEnd? rest)
      else passThrough limit b (throughGt? [lt, x] rest)
    else if x = 63 then passThrough limit b (throughGt? [lt, x] rest)
    else if x = 47 then
      match rest with
      | [] => .ok .undecided
      | y :: _ =>
        if Byte.isAlpha y then passThrough limit b (throughGt? [lt, x] rest)
        else .ok (.verbatim [lt] (x :: rest))
    else if Byte.isAlpha x then
      match StartTag.parse? (x :: rest) with
      | some (tag, rest) => within limit tag.source (.startTag tag rest)
      | none => within limit b .undecided
    else .ok (.verbatim [lt] (x :: rest))

end Markup

/-! ## Scripts and styles -/

/-- The elements whose contents hold no markup. -/
inductive RawText
  | script
  | style
  deriving DecidableEq, Repr

namespace RawText

/-- The kind of contents that an element has, by its name. -/
def ofName? (name : Bytes) : Option RawText :=
  if Bytes.sameName name (Utf8.encode "script") then some .script
  else if Bytes.sameName name (Utf8.encode "style") then some .style
  else none

/-- The octets that begin the end tag, in lower case. -/
def closing : RawText → Bytes
  | .script => Utf8.encode "</script"
  | .style => Utf8.encode "</style"

/-- The octet after the name of an end tag, by which the name ends. -/
def endsClosing (b : UInt8) : Bool := Byte.isSpace b || b == 47 || b == 62

/-- Where raw text ends. -/
inductive End
  /-- The end tag begins after these octets. -/
  | found (before rest : Bytes)
  /-- Nothing before `rest` belongs to the end tag, and `rest` might begin it. -/
  | pending (before rest : Bytes)
  deriving DecidableEq, Repr

/-- One more octet of raw text before its end. -/
def End.cons (b : UInt8) : End → End
  | .found before rest => .found (b :: before) rest
  | .pending before rest => .pending (b :: before) rest

/-- All of `b` is a beginning of `closing`, letter case ignored. -/
def mayBecome (closing b : Bytes) : Bool :=
  let seen := b.take (closing.length + 1)
  Bytes.sameName seen (closing.take seen.length)

/-- The octets begin with `closing`, letter case ignored, and an octet that ends a name. -/
def beginsWithEndTag (closing b : Bytes) : Bool :=
  Bytes.startsWithName closing b && (b.drop closing.length).head?.any endsClosing

/-- Finds the first end tag that begins with `closing` and an octet by which its name ends. -/
def findEnd (closing : Bytes) : Bytes → End
  | [] => .pending [] []
  | b :: rest =>
    if mayBecome closing (b :: rest) then .pending [] (b :: rest)
    else if beginsWithEndTag closing (b :: rest) then .found [] (b :: rest)
    else (findEnd closing rest).cons b

end RawText

end ProxyFilter.Html
