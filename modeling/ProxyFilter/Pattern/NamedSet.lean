import ProxyFilter.Unicode.Age
import ProxyFilter.Unicode.ScriptExtension
import ProxyFilter.Unicode.Segmentation

/-!
# Sets by name

Classes such as `\pL` and `\p{sc=Greek}` name a set of characters: a property, a category or a
script alone, or a property with one of its values. Names are compared in a loose form
(`looseName`). `NamedSet.find?` gives the set, if there is one of that name.
-/

namespace ProxyFilter.Pattern.NamedSet

open Unicode (CodeSet)

/-- A name of a property or of a value in the form in which names are compared: in lower case,
without separators and without `is` in front. -/
def looseName (name : String) : String :=
  let cs := name.toList
  let startsWithIs := ((cs.take 2).map Char.toLower) == ['i', 's']
  let kept := ((if startsWithIs then cs.drop 2 else cs).filter fun c =>
    c.toNat < 128 && c != ' ' && c != '_' && c != '-').map Char.toLower
  if startsWithIs && kept == ['c'] then "isc" else String.ofList kept

/-- The names that are both short for a property without a set of its own and for a category. -/
def categoryFirst : List String := ["cf", "sc", "lc"]

/-- The set that a name alone stands for: a property, a category or a script. -/
def ofName? (name : String) : Option CodeSet :=
  let name := looseName name
  let property := if categoryFirst.contains name then none else Unicode.propertySet? name
  (property.orElse fun _ => Unicode.categorySet? name).orElse fun _ => Unicode.scriptSet? name

/-- The set that a property with a value stands for. -/
def ofValue? (property value : String) : Option CodeSet :=
  let value := looseName value
  match looseName property with
  | "gc" | "generalcategory" => Unicode.categorySet? value
  | "sc" | "script" => Unicode.scriptSet? value
  | "scx" | "scriptextensions" => Unicode.scriptExtensionSet? value
  | "age" => Unicode.ageSet? value
  | "gcb" | "graphemeclusterbreak" => Unicode.characterBreakSet? value
  | "wb" | "wordbreak" => Unicode.wordBreakSet? value
  | "sb" | "sentencebreak" => Unicode.sentenceBreakSet? value
  | _ => none

/-- The set of a name, which a property may stand before. -/
def find? (property : Option String) (name : String) : Option CodeSet :=
  match property with
  | none => ofName? name
  | some p => ofValue? p name

end ProxyFilter.Pattern.NamedSet
