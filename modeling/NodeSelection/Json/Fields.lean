import NodeSelection.Json.Basic
import NodeSelection.Text.Numeral

/-!
Reading records from JSON values.

A record is presented as an object, with its keys in any order and with keys of
other names between them, or as an array of its fields in their order. A field
may be missing only if it is optional; a repeated key of a field is refused.

* `list?_arr_map`: items that are read back one by one are read back as a list.
-/

namespace NodeSelection.Json

/-- The named values that a record presents. -/
abbrev Fields := List (String × Json)

/-- The values that a value presents for the fields with the given names. -/
def fields? (names : List String) : Json → Option Fields
  | .obj members => do
    let named ← members.mapM fun (key, value) => key.map (·, value)
    let known := named.filter fun m => m.1 ∈ names
    if (known.map Prod.fst).Nodup then some known else none
  | .arr items => if items.length ≤ names.length then some (names.zip items) else none
  | _ => none

/-- A field that must be there. -/
def Fields.required {α : Type} (fields : Fields) (name : String) (read : Json → Option α) :
    Option α :=
  (fields.lookup name).bind read

/-- A field with a value to fall back on when it is missing. -/
def Fields.optional {α : Type} (fields : Fields) (name : String) (default : α)
    (read : Json → Option α) : Option α :=
  match fields.lookup name with
  | none => some default
  | some value => read value

/-! ### Simple values -/

/-- The text of a string. -/
def text? : Json → Option String
  | .str text => text
  | _ => none

def bool? : Json → Option Bool
  | .bool b => some b
  | _ => none

/-- A whole number in the 64-bit signed range. -/
def int64? : Json → Option Int64
  | .int i => Text.int64? i
  | _ => none

/-- The items of an array, each of them read. -/
def list? {α : Type} (read : Json → Option α) : Json → Option (List α)
  | .arr items => items.mapM read
  | _ => none

/-- A value or `null`. -/
def nullable? {α : Type} (read : Json → Option α) : Json → Option (Option α)
  | .null => some none
  | value => (read value).map some

/-- A constant with a name: the name itself, or an object with `null` under it. -/
def constant? {α : Type} (ofName? : String → Option α) : Json → Option α
  | .str (some name) => ofName? name
  | .obj [(some name, .null)] => ofName? name
  | _ => none

@[simp] theorem text?_text (s : String) : (text s).text? = some s := rfl

@[simp] theorem bool?_bool (b : Bool) : (bool b).bool? = some b := rfl

@[simp] theorem int64?_int (n : Int64) : (int n.toInt).int64? = some n := by
  simp [int64?]

@[simp] theorem constant?_text {α : Type} (ofName? : String → Option α) (name : String) :
    (text name).constant? ofName? = ofName? name := rfl

/-- Items that are read back one by one are read back as a list. -/
theorem list?_arr_map {α : Type} {read : Json → Option α} {write : α → Json}
    (h : ∀ a, read (write a) = some a) (members : List α) :
    (arr (members.map write)).list? read = some members := by
  simp only [list?]
  induction members with
  | nil => rfl
  | cons a rest ih => simp [List.mapM_cons, h, ih]

end NodeSelection.Json
