import ProxyFilter.Config.Error
import ProxyFilter.Pattern.Program
import ProxyFilter.Pattern.Size
import ProxyFilter.Text.Decimal

/-!
# Replacing matches

A `Template` is the text that takes the place of a match: `$1`, `$name` and `${name}` in it stand
for groups, `$$` for a dollar sign. `ReplaceFirst` replaces the first match in a text, `MaskRule`
every match in a run of octets, and a `Masker` applies mask rules one after another.
-/

namespace ProxyFilter.Pattern

/-! ## Templates -/

/-- A piece of a template. -/
inductive TemplatePiece
  /-- An octet as it is. -/
  | octet (b : UInt8)
  /-- A group by number. -/
  | number (n : Nat)
  /-- A group by name. -/
  | named (name : String)
  deriving DecidableEq, Repr

/-- The text that takes the place of a match. -/
abbrev Template := List TemplatePiece

/-- An octet of a name without braces. -/
def isNameOctet (b : UInt8) : Bool := Byte.isAlnum b || b == 95

/-- The group that a name refers to: by number where it is a number below `2 ^ 64`. -/
def groupRef (name : String) : TemplatePiece :=
  match Text.natBelow? UInt64.size name with
  | some n => .number n
  | none => .named name

/-- The group that the octets after a dollar sign refer to, and what follows the reference. -/
def reference? (b : Bytes) : Option (TemplatePiece × Bytes) :=
  match b with
  | 123 :: rest =>
    match rest.dropWhile (· != 125) with
    | [] => none
    | _ :: after => (Utf8.decode? (rest.takeWhile (· != 125))).map fun name =>
        (groupRef name, after)
  | b =>
    let name := b.takeWhile isNameOctet
    if name.isEmpty then none
    else (Utf8.decode? name).map fun text => (groupRef text, b.drop name.length)

/-- Reads a template, `fuel` pieces at most. A dollar sign that begins no reference is itself. -/
def Template.read : Nat → Bytes → Template
  | 0, _ | _, [] => []
  | fuel + 1, 36 :: rest =>
    match rest with
    | 36 :: rest => .octet 36 :: Template.read fuel rest
    | rest =>
      match reference? rest with
      | some (piece, rest) => piece :: Template.read fuel rest
      | none => .octet 36 :: Template.read fuel rest
  | fuel + 1, b :: rest => .octet b :: Template.read fuel rest

/-- Reads a template. -/
def Template.parse (text : String) : Template :=
  let octets := Utf8.encode text
  Template.read octets.length octets

/-! ## Compiled patterns -/

/-- A compiled pattern and the names of its groups. -/
structure Regex where
  program : Program
  names : List (String × Nat)

/-- Compiles a pattern, for text or for octets. -/
def Regex.compile? (utf8 : Bool) (pattern : String) : Option Regex := do
  let source ← Source.parse? pattern
  let (e, _) ← source.tree.toExpr? utf8 .initial
  if ! (Shape.ofExpr e).fits then none
  return ⟨Program.ofExpr utf8 e, source.names⟩

/-- Compiles a pattern of a configuration. -/
def Regex.compile (utf8 : Bool) (pattern : String) : Except ConfigError Regex :=
  match Regex.compile? utf8 pattern with
  | some r => .ok r
  | none => .error (.pattern pattern)

/-- The octets of a template for a match. A group that does not exist or took no part is empty. -/
def Regex.expand (r : Regex) (t : Template) (h : Haystack) (m : Match) : Bytes :=
  t.flatMap fun
    | .octet b => [b]
    | .number n => (m.group? h n).getD []
    | .named name => ((r.names.lookup name).bind (m.group? h)).getD []

/-- The octets from one place up to another. -/
def Haystack.slice (h : Haystack) (first last : Nat) : Bytes := (h.extract first last).toList

/-! ## The first match -/

/-- A rule that replaces the first match in a text. -/
structure ReplaceFirst where
  regex : Regex
  template : Template

namespace ReplaceFirst

/-- Compiles a rule. -/
def compile (pattern template : String) : Except ConfigError ReplaceFirst :=
  (Regex.compile true pattern).map fun regex => ⟨regex, Template.parse template⟩

/-- The octets of a text after the rule. -/
def applyOctets (r : ReplaceFirst) (input : Bytes) : Bytes :=
  let h : Haystack := input.toArray
  match r.regex.program.find? h 0 with
  | none => input
  | some m => h.slice 0 m.first ++ r.regex.expand r.template h m ++ h.slice m.last h.size

/-- The text after the rule. -/
def apply (r : ReplaceFirst) (input : String) : String :=
  Utf8.decodeLossy (r.applyOctets (Utf8.encode input))

/-- The text after the rule, if the rule changes it. -/
def transform (r : ReplaceFirst) (input : String) : Option String :=
  let out := r.apply input
  if out = input then none else some out

end ReplaceFirst

/-! ## Every match -/

/-- A rule that replaces every match in a run of octets. -/
structure MaskRule where
  regex : Regex
  template : Template

namespace MaskRule

/-- Compiles a rule. -/
def compile (pattern template : String) : Except ConfigError MaskRule :=
  (Regex.compile false pattern).map fun regex => ⟨regex, Template.parse template⟩

/-- The next match at the place `i` or after it. A match that is empty and stands where the last
one ended does not count. -/
def next? (r : MaskRule) (h : Haystack) (i : Nat) (lastEnd : Option Nat) : Option Match :=
  match r.regex.program.find? h i with
  | none => none
  | some m =>
    if m.first = m.last ∧ lastEnd = some m.last then r.regex.program.find? h (i + 1) else some m

/-- The octets from the place `copied` on after the rule, of which the next match is sought at the
place `i`; at most `fuel` matches are replaced. -/
def applyFrom (r : MaskRule) (h : Haystack) : Nat → Nat → Nat → Option Nat → Bytes
  | 0, copied, _, _ => h.slice copied h.size
  | fuel + 1, copied, i, lastEnd =>
    match r.next? h i lastEnd with
    | none => h.slice copied h.size
    | some m =>
      h.slice copied m.first ++ r.regex.expand r.template h m
        ++ r.applyFrom h fuel m.last m.last (some m.last)

/-- The octets after the rule. -/
def apply (r : MaskRule) (input : Bytes) : Bytes :=
  let h : Haystack := input.toArray
  r.applyFrom h (2 * h.size + 2) 0 0 none

end MaskRule

/-- Mask rules, applied one after another. -/
abbrev Masker := List MaskRule

/-- A run of octets after all rules. A match that goes over its end is not seen. -/
def Masker.apply (m : Masker) (chunk : Bytes) : Bytes := m.foldl (fun b r => r.apply b) chunk

end ProxyFilter.Pattern
