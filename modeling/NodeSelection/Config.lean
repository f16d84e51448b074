import NodeSelection.Settings
import NodeSelection.Toml.Reader

/-!
Config files: settings in the table `selection` of a TOML document.

A file is read all or nothing: a key of another name, or a value of another type,
makes the whole file fail. Instead of a table, `selection` may be an array that begins
with all three settings in order; what follows them is not looked at.
-/

namespace NodeSelection.Settings

/-- A string. -/
def textOf? : Toml → Option String
  | .str s => some s
  | _ => none

/-- A whole number. -/
def hopsOf? : Toml → Option Int64
  | .int n => some n
  | _ => none

/-- A setting that may be missing. -/
def setting? {α : Type} (read : Toml → Option α) (key : String) (entries : Toml.Entries) :
    Option (Option α) :=
  match entries.lookup key with
  | none => some none
  | some value => (read value).map some

/-- The settings of the value of `selection`. -/
def ofSection? : Toml → Option Settings
  | .table _ entries =>
    if entries.all fun e => e.1 ∈ ["select", "exclude", "hops"] then do
      let select ← setting? textOf? "select" entries
      let exclude ← setting? textOf? "exclude" entries
      let hops ← setting? hopsOf? "hops" entries
      return ⟨select, exclude, hops⟩
    else none
  | .arr (.str select :: .str exclude :: .int hops :: _) =>
    some ⟨some select, some exclude, some hops⟩
  | _ => none

/-- The settings of a document. -/
def ofEntries? (root : Toml.Entries) : Option Settings :=
  if root.all fun e => e.1 == "selection" then
    match root.lookup "selection" with
    | none => some empty
    | some value => ofSection? value
  else none

/-- The settings of a config file's text. -/
def parse? (text : String) : Option Settings := (Toml.read? text).bind ofEntries?

end NodeSelection.Settings
