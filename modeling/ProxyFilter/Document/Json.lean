import ProxyFilter.Document.Basic
import ProxyFilter.Json.Syntax

/-!
# Documents in JSON

`Document.ofJson?` reads a document that is written in JSON. What has no value (a number out of
range, a string that is not Unicode, levels beyond the deepest) is an unreadable part, which only
matters where it is read.
-/

namespace ProxyFilter.Document

/-- A number; one that is not written as an integer stands for none. -/
def ofNumber : Option Json.Number → Document
  | some (.natural n) => integer n
  | some (.negative n) => integer n
  | some (.real _) => decimal none
  | none => unreadable

/-- The document of a text of which `depth` levels have a value. -/
def ofNode : Nat → Json.Node → Document
  | _, .null => null
  | _, .bool b => bool b
  | _, .number n => ofNumber n.number?
  | _, .string s => (s.map text).getD unreadable
  | 0, .array _ | 0, .object _ => unreadable
  | depth + 1, .array items => list (items.map (ofNode depth))
  | depth + 1, .object members =>
    let fields := members.mapM fun (key, v) => key.map fun key => (key, ofNode depth v)
    (fields.map record).getD unreadable

/-- Reads a document that is written in JSON. -/
def ofJson? (b : Bytes) : Option Document := (Json.Node.parse? b).map (ofNode Json.Node.maxDepth)

end ProxyFilter.Document
