import ProxyFilter.Http.Header

/-!
# Trace contexts

A request may carry the id of the trace it belongs to in one of two headers:

* `x-cloud-trace-context: TRACE[/SPAN][;o=0|1]` (`Trace.ofCloud?`)
* `traceparent: VERSION-TRACE-PARENT-FLAGS` (`Trace.ofTraceparent?`)

A header that does not have its form counts as absent. Where both are there, the first one wins.
-/

namespace ProxyFilter

/-- The header that a trace context was read from. -/
inductive TraceFormat
  /-- The cloud trace header. -/
  | google
  /-- The standard `traceparent` header. -/
  | w3c
  deriving DecidableEq, Repr

/-- The trace a request belongs to. -/
structure Trace where
  /-- Thirty-two hexadecimal digits in lower case. -/
  traceId : String
  /-- The span within the trace, as it was written: decimal or hexadecimal by the format. -/
  spanId : Option String
  /-- Whether the trace is recorded, where the header says so. -/
  sampled : Option Bool
  /-- Where the context was read from. -/
  format : TraceFormat
  deriving DecidableEq, Repr

namespace Trace

/-- The name of the cloud trace header. -/
def cloudHeader : String := "x-cloud-trace-context"

/-- The name of the standard trace header. -/
def parentHeader : String := "traceparent"

/-- An id of `size` hexadecimal digits, not all of them zero. -/
def isId (size : Nat) (s : String) : Bool :=
  s.length == size && s.toList.all Ascii.isHexDigit && s.toList.any (· != '0')

/-- The recording option of the cloud header: `o=1` or `o=0`, else unknown. -/
def cloudOption? (options : String) : Option Bool :=
  match Text.trim options with
  | "o=1" => some true
  | "o=0" => some false
  | _ => none

/-- Reads `TRACE[/SPAN][;OPTIONS]`. -/
def ofCloud? (value : String) : Option Trace :=
  let value := Text.trim value
  let (ids, options) := match Text.splitOnce? ';' value with
    | some (ids, options) => (ids, some options)
    | none => (value, none)
  let (traceId, spanId) := match Text.splitOnce? '/' ids with
    | some (t, s) => (t, some s)
    | none => (ids, none)
  let spanOk := match spanId with
    | some s => ! s.isEmpty && s.toList.all Char.isDigit
    | none => true
  if isId 32 traceId && spanOk then
    some { traceId := Ascii.lower traceId, spanId, sampled := options.bind cloudOption?,
           format := .google }
  else none

/-- The number that a flags field stands for: two characters, hexadecimal digits of which the
first may be a plus sign instead. -/
def flags? (field : String) : Option Nat :=
  match field.toList with
  | [a, b] =>
    if Ascii.isHexDigit b then
      if a = '+' then some (hexDigitValue b)
      else if Ascii.isHexDigit a then some (16 * hexDigitValue a + hexDigitValue b)
      else none
    else none
  | _ => none
where
  /-- The value of a hexadecimal digit. -/
  hexDigitValue (c : Char) : Nat :=
    if c.isDigit then c.toNat - 48 else c.toLower.toNat - 87

/-- A version field: two hexadecimal digits other than `ff`. -/
def isVersion (field : String) : Bool :=
  field.length == 2 && field.toList.all Ascii.isHexDigit && ! Ascii.sameName field "ff"

/-- Reads `VERSION-TRACE-PARENT-FLAGS`. Only versions other than `00` may have more fields. -/
def ofTraceparent? (value : String) : Option Trace :=
  match Text.splitAll '-' (Text.trim value) with
  | version :: traceId :: parentId :: flags :: more =>
    if isVersion version && (version != "00" || more.isEmpty) && isId 32 traceId
        && isId 16 parentId then
      (flags? flags).map fun n =>
        { traceId := Ascii.lower traceId, spanId := some (Ascii.lower parentId),
          sampled := some (n % 2 == 1), format := .w3c }
    else none
  | _ => none

/-- The trace of a request: that of the cloud header, else that of the standard header. -/
def ofHeaders? (headers : HeaderSet) : Option Trace :=
  ((headers.get? cloudHeader).bind ofCloud?).orElse fun _ =>
    (headers.get? parentHeader).bind ofTraceparent?

end Trace

end ProxyFilter
