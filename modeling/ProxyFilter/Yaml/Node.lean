import ProxyFilter.Yaml.Tag

/-!
# Nodes

A `Node` is a part of a YAML text that has been read: what it says, and the text by which it names
a field if it is a key. In a mapping the key `<<` names no field but adds those of other mappings
that are not there yet (`Node.ofFields`).
-/

namespace ProxyFilter.Yaml

/-- A part of a text. -/
structure Node where
  document : Document
  /-- The text of a scalar. -/
  name : Option String

namespace Node

/-- A scalar with or without quotes, and perhaps a tag. -/
def scalar (inQuotes : Bool) (tag : Option String) (text : String) : Node :=
  ⟨(Form.ofTag inQuotes tag).value text, some text⟩

/-- A node that is left out. -/
def missing (tag : Option String) : Node := scalar false tag ""

/-- A sequence. -/
def ofItems (items : List Node) : Node := ⟨.list (items.map document), none⟩

/-- The fields of a record, or of all records in a list. -/
def mergedFields? : Document → Option (List (String × Document))
  | .record fields => some fields
  | .list items => (items.mapM fieldsOf?).map List.flatten
  | _ => none
where
  fieldsOf? : Document → Option (List (String × Document))
    | .record fields => some fields
    | _ => none

/-- Fields with those of others whose names are new. -/
def addMissing (fields others : List (String × Document)) : List (String × Document) :=
  others.foldl (fun fields f => if (fields.lookup f.1).isSome then fields else fields ++ [f]) fields

/-- The fields of a mapping, if each key is a scalar and each merge names mappings. -/
def fields? (entries : List (Node × Node)) : Option (List (String × Document)) := do
  let named ← entries.mapM fun (key, value) => key.name.map fun name => (name, value.document)
  let merged ← (named.filter fun f => f.1 == "<<").mapM fun f => mergedFields? f.2
  return addMissing (named.filter fun f => f.1 != "<<") merged.flatten

/-- A mapping. One with other keys than scalars has no value. -/
def ofFields (entries : List (Node × Node)) : Node :=
  ⟨((fields? entries).map Document.record).getD .unreadable, none⟩

end Node

end ProxyFilter.Yaml
