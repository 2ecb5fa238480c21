/-!
# Documents

A `Document` is what a settings text says before its parts are given a meaning, whatever notation it
is written in. `Document.fields?` takes a record apart into the fields of a given list of names:
every field at most once, and other fields are skipped. Some notations let a list stand for a
record; then the fields come in order and the last ones may be left out. `Field.required`,
`Field.optional` and `Field.orElse` read one field.
-/

namespace ProxyFilter

/-- A document tree. -/
inductive Document
  | null
  | bool (b : Bool)
  | integer (n : Int)
  /-- A number that is not written as an integer, and the natural number that it may stand for. -/
  | decimal (whole : Option Nat)
  | text (s : String)
  | list (items : List Document)
  /-- Names and values, in order; a name may occur more than once. -/
  | record (fields : List (String × Document))
  /-- A part that keeps to the grammar and has no value. -/
  | unreadable

/-- What may stand for a record. -/
inductive RecordForm
  /-- Names and values only. -/
  | named
  /-- Names and values, or a list of the values in order. -/
  | namedOrListed
  deriving DecidableEq, Repr

namespace Document

mutual

/-- Every part of a document has a value. -/
def isReadable : Document → Bool
  | unreadable => false
  | list items => areReadable items
  | record fields => haveReadable fields
  | _ => true

/-- Every part of some documents has a value. -/
def areReadable : List Document → Bool
  | [] => true
  | d :: rest => isReadable d && areReadable rest

/-- Every part of some fields has a value. -/
def haveReadable : List (String × Document) → Bool
  | [] => true
  | (_, d) :: rest => isReadable d && haveReadable rest

end

/-! ## Values -/

/-- The text of a document that is one. -/
def text? : Document → Option String
  | text s => some s
  | _ => none

/-- The truth value of a document that is one. -/
def bool? : Document → Option Bool
  | bool b => some b
  | _ => none

/-- The natural number below a bound of a document that is one. -/
def natBelow? (bound : Nat) : Document → Option Nat
  | integer n => if 0 ≤ n ∧ n < bound then some n.toNat else none
  | _ => none

/-- The natural number below a bound that a document is or may stand for. -/
def wholeBelow? (bound : Nat) : Document → Option Nat
  | decimal whole => whole.filter (· < bound)
  | d => natBelow? bound d

/-- The items of a list, each read in one way. -/
def listOf? {α : Type} (read : Document → Option α) : Document → Option (List α)
  | list items => items.mapM read
  | _ => none

/-- The value of a word in a list of choices. A record may stand for the word if the word is its one
field and says nothing more. -/
def choice? {α : Type} (choices : List (String × α)) : Document → Option α
  | text s | record [(s, null)] | record [(s, record [])] => choices.lookup s
  | _ => none

end Document

/-! ## Records -/

/-- A field of a record, if it is there. -/
abbrev Field := Option Document

namespace Field

/-- A field that must be there. -/
def required {α : Type} (read : Document → Option α) (field : Field) : Option α := field.bind read

/-- A field that may be absent or null. -/
def optional {α : Type} (read : Document → Option α) : Field → Option (Option α)
  | none | some .null => some none
  | some d => (read d).map some

/-- A field that has a default. -/
def orElse {α : Type} (read : Document → Option α) (default : α) : Field → Option α
  | none => some default
  | some d => read d

end Field

namespace Document

/-- The value of a name that occurs at most once among some fields. -/
def single? (fields : List (String × Document)) (name : String) : Option Field :=
  match fields.filter fun f => f.1 = name with
  | [] => some none
  | [(_, d)] => some (some d)
  | _ => none

/-- The fields of a record with the given names, in the order of the names. -/
def fields? (form : RecordForm) (names : List String) : Document → Option (List Field)
  | record fields => names.mapM (single? fields)
  | list items =>
    if form = .namedOrListed ∧ items.length ≤ names.length then
      some (items.map some ++ List.replicate (names.length - items.length) none)
    else none
  | _ => none

/-- A record has no fields but those with the given names. -/
def hasOnly (names : List String) : Document → Bool
  | record fields => fields.all fun f => names.contains f.1
  | _ => true

end Document

end ProxyFilter
