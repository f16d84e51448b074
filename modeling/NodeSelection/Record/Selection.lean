import NodeSelection.Json.Fields
import NodeSelection.Selection

/-!
Records of selectors, groups and selections.

Reading checks nothing but the types of the fields: any combination of values is
a record.

* `Selector.ofJson?_toJson`, `Group.ofJson?_toJson`, `Selection.ofJson?_toJson`:
  what is written is read back.
-/

namespace NodeSelection

open Json (Fields)

/-! ### Kinds and methods -/

def Kind.toJson (kind : Kind) : Json := .text kind.name

def Kind.ofJson? (value : Json) : Option Kind := value.constant? Kind.ofName?

def Method.toJson (method : Method) : Json := .text method.name

def Method.ofJson? (value : Json) : Option Method := value.constant? Method.ofName?

@[simp] theorem Kind.ofJson?_toJson (kind : Kind) : Kind.ofJson? kind.toJson = some kind := by
  simp [ofJson?, toJson]

@[simp] theorem Method.ofJson?_toJson (method : Method) :
    Method.ofJson? method.toJson = some method := by
  simp [ofJson?, toJson]

/-! ### Selectors -/

namespace Selector

/-- The fields of a selector's record, in order. -/
def fieldNames : List String :=
  ["selector_type", "selector_value", "select_at", "select_parents", "select_children", "raw"]

def toJson (s : Selector) : Json :=
  .record [("selector_type", s.kind.toJson), ("selector_value", .text s.value),
    ("select_at", .bool s.exact), ("select_parents", .bool s.parents),
    ("select_children", .bool s.children), ("raw", .text s.raw)]

def ofFields? (fields : Fields) : Option Selector := do
  let kind ← fields.required "selector_type" Kind.ofJson?
  let value ← fields.required "selector_value" Json.text?
  let exact ← fields.required "select_at" Json.bool?
  let parents ← fields.required "select_parents" Json.bool?
  let children ← fields.required "select_children" Json.bool?
  let raw ← fields.required "raw" Json.text?
  return ⟨kind, value, exact, parents, children, raw⟩

def ofJson? (value : Json) : Option Selector := (value.fields? fieldNames).bind ofFields?

@[simp] theorem ofJson?_toJson (s : Selector) : ofJson? s.toJson = some s := by
  simp [ofJson?, toJson, Json.record, Json.fields?, fieldNames, ofFields?, Fields.required,
    List.lookup_cons]

end Selector

/-! ### Groups -/

namespace Group

/-- The fields of a group's record, in order. -/
def fieldNames : List String := ["method", "selectors"]

def toJson (g : Group) : Json :=
  .record [("method", g.method.toJson), ("selectors", .arr (g.selectors.map Selector.toJson))]

def ofFields? (fields : Fields) : Option Group := do
  let method ← fields.required "method" Method.ofJson?
  let selectors ← fields.required "selectors" (Json.list? Selector.ofJson?)
  return ⟨method, selectors⟩

def ofJson? (value : Json) : Option Group := (value.fields? fieldNames).bind ofFields?

@[simp] theorem ofJson?_toJson (g : Group) : ofJson? g.toJson = some g := by
  simp [ofJson?, toJson, Json.record, Json.fields?, fieldNames, ofFields?, Fields.required,
    List.lookup_cons, Json.list?_arr_map Selector.ofJson?_toJson]

end Group

/-! ### Selections -/

namespace Selection

/-- The fields of a selection's record, in order. -/
def fieldNames : List String := ["include", "exclude", "hops"]

def toJson (s : Selection) : Json :=
  .record [("include", .arr (s.included.map Group.toJson)),
    ("exclude", .arr (s.excluded.map Group.toJson)), ("hops", .int s.hops.toInt)]

def ofFields? (fields : Fields) : Option Selection := do
  let included ← fields.required "include" (Json.list? Group.ofJson?)
  let excluded ← fields.required "exclude" (Json.list? Group.ofJson?)
  let hops ← fields.required "hops" Json.int64?
  return ⟨included, excluded, hops⟩

def ofJson? (value : Json) : Option Selection := (value.fields? fieldNames).bind ofFields?

@[simp] theorem ofJson?_toJson (s : Selection) : ofJson? s.toJson = some s := by
  simp [ofJson?, toJson, Json.record, Json.fields?, fieldNames, ofFields?, Fields.required,
    List.lookup_cons, Json.list?_arr_map Group.ofJson?_toJson]

end Selection

end NodeSelection
