import ProxyFilter.Pattern.Expr
import ProxyFilter.Text.Utf8

/-!
# Shapes of patterns

A `Shape` is a pattern in a simple form that matches the same: characters that follow one another
are one literal, sequences are not nested in sequences nor choices in choices, a choice of
characters is a set, and what all branches of a choice begin with stands before it. The size of an
automaton for a pattern is that of its shape (`Shape.ofExpr`).
-/

namespace ProxyFilter.Pattern

open Unicode (CodeSet)

/-- A pattern in a simple form. -/
inductive Shape
  | empty
  | literal (octets : Bytes)
  | chars (s : CodeSet)
  | octets (s : CodeSet)
  | look (l : Look)
  /-- The part that is repeated may match nothing, unless it `consumes`. -/
  | repetition (min : Nat) (max : Option Nat) (greedy consumes : Bool) (sub : Shape)
  | capture (index : Nat) (sub : Shape)
  | concat (parts : List Shape)
  | alternation (branches : List Shape)
  deriving BEq

namespace Shape

/-! ## Sets -/

/-- The one member of a set. -/
def onlyMember? (s : CodeSet) : Option Nat :=
  match s.ranges.toList with
  | [(a, b)] => if a = b then some a else none
  | _ => none

/-- A set of characters; one of a single character is a literal. -/
def ofChars (s : CodeSet) : Shape :=
  if s.isEmpty then octets s
  else
    match onlyMember? s with
    | some n => literal (Utf8.encode (String.ofList [Char.ofNat n]))
    | none => chars s

/-- A set of octets; one of a single octet is a literal. -/
def ofOctets (s : CodeSet) : Shape :=
  match onlyMember? s with
  | some n => literal [n.toUInt8]
  | none => octets s

/-- Every member of a set is in ASCII. -/
def isAscii (s : CodeSet) : Bool := s.ranges.all fun r => r.2 < 128

/-- The character that a literal of one character is. -/
def char? : Shape → Option CodeSet
  | literal b =>
    match (Utf8.decode? b).map String.toList with
    | some [c] => some (CodeSet.single c.toNat)
    | _ => none
  | _ => none

/-- The octet that a literal of one octet is. -/
def octet? : Shape → Option CodeSet
  | literal [b] => some (CodeSet.single b.toNat)
  | _ => none

/-- The characters of a set. -/
def chars? : Shape → Option CodeSet
  | chars s => some s
  | octets s => if isAscii s then some s else none
  | _ => none

/-- The octets of a set. -/
def octets? : Shape → Option CodeSet
  | octets s => some s
  | chars s => if isAscii s then some s else none
  | _ => none

/-- The set that a choice of single characters, of single octets or of sets is. -/
def union? (branches : List Shape) : Option Shape :=
  ((branches.mapM char?).map (ofChars ∘ CodeSet.unions)).or <|
  ((branches.mapM octet?).map (ofOctets ∘ CodeSet.unions)).or <|
  ((branches.mapM chars?).map (ofChars ∘ CodeSet.unions)).or <|
  (branches.mapM octets?).map (ofOctets ∘ CodeSet.unions)

/-! ## Sequences and choices -/

/-- Puts a part that is no sequence before others, to which a literal is joined. -/
def prepend (part : Shape) (rest : List Shape) : List Shape :=
  match part, rest with
  | empty, rest => rest
  | literal b, literal c :: rest => literal (b ++ c) :: rest
  | part, rest => part :: rest

/-- The parts of a sequence, without those of which it is made. -/
def parts : Shape → List Shape
  | concat parts => parts
  | s => [s]

/-- Shapes one after another. -/
def sequence (shapes : List Shape) : Shape :=
  match (shapes.flatMap parts).foldr prepend [] with
  | [] => empty
  | [s] => s
  | parts => concat parts

/-- The parts of a shape that is a sequence. -/
def sequenceParts? : Shape → Option (List Shape)
  | concat parts => some parts
  | _ => none

/-- The number of parts that two lists begin with alike. -/
def commonLength : List Shape → List Shape → Nat
  | a :: as, b :: bs => if a == b then commonLength as bs + 1 else 0
  | _, _ => 0

/-- What all branches of a choice begin with, and what is left of each, if all are sequences. -/
def commonParts? (branches : List Shape) : Option (List Shape × List Shape) := do
  match ← branches.mapM sequenceParts? with
  | [] => none
  | first :: rest =>
    let size := rest.foldl (fun n parts => min n (commonLength first parts)) first.length
    if size = 0 then none
    else some (first.take size, (first :: rest).map fun parts => sequence (parts.drop size))

/-- The branches of a choice, without those of which it is made. -/
def branches : Shape → List Shape
  | alternation branches => branches
  | s => [s]

/-- A choice of shapes, of which common parts are taken out `fuel` times at most. -/
def choiceLoop : Nat → List Shape → Shape
  | fuel, shapes =>
    match shapes.flatMap branches with
    | [] => octets CodeSet.empty
    | [s] => s
    | branches =>
      match union? branches, fuel, commonParts? branches with
      | some s, _, _ => s
      | none, fuel + 1, some (common, rest) => sequence (common ++ [choiceLoop fuel rest])
      | none, _, _ => alternation branches

/-- A choice of shapes. -/
def choice (shapes : List Shape) : Shape :=
  choiceLoop ((shapes.head?.map fun s => s.parts.length).getD 0) shapes

/-- A repetition. One more match of nothing changes nothing. -/
def repeated (min : Nat) (max : Option Nat) (greedy consumes emptyOnly : Bool) (sub : Shape) :
    Shape :=
  let (min, max) :=
    if emptyOnly then (Nat.min min 1, some ((max.map (Nat.min · 1)).getD 1)) else (min, max)
  if max = some 0 then empty
  else if min = 1 ∧ max = some 1 then sub
  else repetition min max greedy consumes sub

mutual

/-- The shape of a pattern. -/
def ofExpr : Expr → Shape
  | .empty => empty
  | .char s => ofChars s
  | .octet s => ofOctets s
  | .look l => look l
  | .repetition min max greedy sub =>
    repeated min max greedy sub.consumes sub.isEmptyOnly (ofExpr sub)
  | .capture index sub => capture index (ofExpr sub)
  | .concat parts => sequence (ofExprs parts)
  | .alternation branches => choice (ofExprs branches)

/-- The shapes of some patterns. -/
def ofExprs : List Expr → List Shape
  | [] => []
  | e :: rest => ofExpr e :: ofExprs rest

end

end Shape

end ProxyFilter.Pattern
