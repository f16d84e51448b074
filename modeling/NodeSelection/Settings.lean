import NodeSelection.Text.Numeral
import NodeSelection.Text.Quoted

/-!
Settings: what a user says about a selection, on the command line or in a config
file, each part of it optional.

* `Settings.orElse`: flags are laid over the settings of a config file.
* `Settings.request`: what is still open gets its default.
-/

namespace NodeSelection

/-- Optional texts of what to include and to exclude, and an optional number of hops. -/
structure Settings where
  select : Option String
  exclude : Option String
  hops : Option Int64
deriving DecidableEq, Repr

/-- What to run with: the texts to include and to exclude, and how far the
selection of parents and children may travel. -/
structure Request where
  select : String
  exclude : String
  hops : Int64
deriving DecidableEq, Repr

namespace Settings

/-- Nothing set. -/
def empty : Settings := ⟨none, none, none⟩

/-- Each setting from `flags`, and from `config` where `flags` leave it open. A flag
with an empty text counts as set. -/
def orElse (flags config : Settings) : Settings :=
  ⟨flags.select.or config.select, flags.exclude.or config.exclude, flags.hops.or config.hops⟩

/-- The settings with defaults for what is open: empty texts and no hops. -/
def request (s : Settings) : Request :=
  ⟨s.select.getD "", s.exclude.getD "", s.hops.getD 0⟩

/-- An optional value as the log shows it. -/
def shown {α : Type} (write : α → String) : Option α → String
  | none => "None"
  | some a => "Some(" ++ write a ++ ")"

/-- The settings of a config file as the log shows them. -/
def logText (s : Settings) : String :=
  "Config \x7b selection: SelectionConfig \x7b select: " ++ shown Text.quoted s.select ++
    ", exclude: " ++ shown Text.quoted s.exclude ++
    ", hops: " ++ shown (fun n => String.ofList (Text.writeInt n.toInt)) s.hops ++ " \x7d \x7d"

end Settings

end NodeSelection
