import NodeSelection.Settings
import NodeSelection.Text.Lead

/-!
The command line: a command with its options.

`parse` prints a selection, `apply` resolves it against a manifest. Both take the
settings of a selection as options, and a config file for those left open.

* `Flag.ofName?_name`: an option is found by its name.
-/

namespace NodeSelection

/-- The options. -/
inductive Flag where
  | config
  | manifest
  | select
  | exclude
  | hops
deriving DecidableEq, Repr

namespace Flag

/-- The name of the option, without its dashes. -/
def name : Flag → String
  | config => "config"
  | manifest => "manifest"
  | select => "select"
  | exclude => "exclude"
  | hops => "hops"

/-- The option with the given name. There are no abbreviations. -/
def ofName? : String → Option Flag
  | "config" => some config
  | "manifest" => some manifest
  | "select" => some select
  | "exclude" => some exclude
  | "hops" => some hops
  | _ => none

/-- The option with a letter of its own. -/
def ofLetter? : Char → Option Flag
  | 's' => some select
  | _ => none

@[simp] theorem ofName?_name (f : Flag) : ofName? f.name = some f := by
  cases f <;> rfl

end Flag

/-- What the program is to do. -/
inductive Command where
  /-- Print the selection. -/
  | parse
  /-- Print what the selection finds in a manifest. -/
  | apply (manifest : String)
deriving DecidableEq, Repr

/-- A command line that was understood. -/
structure Invocation where
  command : Command
  /-- The path of a config file. -/
  config : Option String
  flags : Settings
deriving DecidableEq, Repr

/-- Why a command line is not carried out. -/
inductive UsageError where
  /-- Help is asked for. -/
  | help
  /-- Nothing is given at all. -/
  | nothing
  /-- Options are given, but no command. -/
  | noCommand
  /-- A word stands in the place of the command and is none. -/
  | unknownCommand (word : String)
  /-- An option or a word that has no meaning here. -/
  | unknownArgument (word : String)
  /-- The request for help is given a value. -/
  | needlessValue (value : String)
  /-- An option lacks its value, or is given an empty path. -/
  | noValue (flag : Flag)
  /-- A value is no 64-bit number. -/
  | noNumber (value : String)
  /-- An option is given twice. -/
  | repeated (flag : Flag)
  /-- An option that the command needs is missing. -/
  | missing (flag : Flag)
deriving DecidableEq, Repr

/-- Help is no failure. -/
def UsageError.exitCode : UsageError → Nat
  | help => 0
  | _ => 2

/-! ### Single arguments -/

/-- How an option is written. -/
inductive OptionWord where
  /-- An option `--name`, perhaps with `=` and a value. -/
  | long (name : String) (value : Option String)
  /-- An option `-x` with whatever follows the letter. -/
  | short (letter : Char) (rest : List Char)
deriving DecidableEq, Repr

/-- The form of an argument. -/
inductive Argument where
  /-- The separator `--`: only plain words follow. -/
  | separator
  | option (o : OptionWord)
  /-- Anything else, a lone dash and the empty argument too. -/
  | plain
deriving DecidableEq, Repr

/-- The form of an argument with the given characters. -/
def Argument.ofChars : List Char → Argument
  | ['-', '-'] => .separator
  | '-' :: '-' :: rest =>
    match Text.cutAt? '=' rest with
    | some (name, value) => .option (.long (String.ofList name) (some (String.ofList value)))
    | none => .option (.long (String.ofList rest) none)
  | '-' :: letter :: rest => .option (.short letter rest)
  | _ => .plain

end NodeSelection
