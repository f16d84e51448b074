import NodeSelection.Json.Reader
import NodeSelection.Json.Fields
import NodeSelection.Manifest.Basic

/-!
Reading manifests from their JSON text.

A node may lack labels and an origin, an origin may lack its part; `null` stands
for a missing origin and a missing part, but not for missing labels.
-/

namespace NodeSelection

open Json (Fields)

namespace Origin

/-- The fields of an origin's record, in order. -/
def fieldNames : List String := ["name", "table"]

def ofFields? (fields : Fields) : Option Origin := do
  let name ← fields.required "name" Json.text?
  let table ← fields.optional "table" none (Json.nullable? Json.text?)
  return ⟨name, table⟩

def ofJson? (value : Json) : Option Origin := (value.fields? fieldNames).bind ofFields?

end Origin

namespace Node

/-- The fields of a node's record, in order. -/
def fieldNames : List String := ["unique_id", "fqn", "tags", "source"]

def ofFields? (fields : Fields) : Option Node := do
  let id ← fields.required "unique_id" Json.text?
  let fqn ← fields.required "fqn" (Json.list? Json.text?)
  let tags ← fields.optional "tags" [] (Json.list? Json.text?)
  let origin ← fields.optional "source" none (Json.nullable? Origin.ofJson?)
  return ⟨id, fqn, tags, origin⟩

def ofJson? (value : Json) : Option Node := (value.fields? fieldNames).bind ofFields?

end Node

namespace Manifest

/-- The fields of a manifest's record, in order. -/
def fieldNames : List String := ["nodes"]

def ofFields? (fields : Fields) : Option Manifest := do
  let nodes ← fields.required "nodes" (Json.list? Node.ofJson?)
  return ⟨nodes⟩

def ofJson? (value : Json) : Option Manifest := (value.fields? fieldNames).bind ofFields?

/-- The manifest that a text holds. -/
def parse? (text : String) : Option Manifest := (Json.read? text).bind ofJson?

end Manifest

end NodeSelection
