import NodeSelection.Hits
import NodeSelection.Json.Fields

/-!
Records of hits.

* `Hits.ofJson?_toJson`: hits are read back if their nodes are.
-/

namespace NodeSelection

open Json (Fields)

namespace Hits

variable {N : Type}

/-- The fields of a record of hits, in order. -/
def fieldNames : List String := ["matched", "selected"]

def toJson (node : N → Json) (h : Hits N) : Json :=
  .record [("matched", .arr (h.matched.map node)), ("selected", .arr (h.selected.map node))]

def ofFields? (node : Json → Option N) (fields : Fields) : Option (Hits N) := do
  let matched ← fields.required "matched" (Json.list? node)
  let selected ← fields.required "selected" (Json.list? node)
  return ⟨matched, selected⟩

def ofJson? (node : Json → Option N) (value : Json) : Option (Hits N) :=
  (value.fields? fieldNames).bind (ofFields? node)

theorem ofJson?_toJson {read : Json → Option N} {write : N → Json}
    (back : ∀ n, read (write n) = some n) (h : Hits N) :
    ofJson? read (h.toJson write) = some h := by
  simp [ofJson?, toJson, Json.record, Json.fields?, fieldNames, ofFields?, Fields.required,
    List.lookup_cons, Json.list?_arr_map back]

end Hits

end NodeSelection
