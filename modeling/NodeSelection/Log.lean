import NodeSelection.Settings

/-!
The log: records of what a run did, in order.

A record is a value; `LogRecord.text` is the one place that words it.

* `Level.ofName?_name`: a level is read back from its lower-case name.
* `Log.atLeast_append`: filtering by level goes record by record.
-/

namespace NodeSelection

/-- How much a record matters, from the least on. -/
inductive Level where
  | trace
  | debug
  | info
  | warn
deriving DecidableEq, Repr

namespace Level

def rank : Level → Nat
  | trace => 0
  | debug => 1
  | info => 2
  | warn => 3

def name : Level → String
  | trace => "trace"
  | debug => "debug"
  | info => "info"
  | warn => "warn"

/-- The label in front of a record. -/
def label : Level → String
  | trace => "TRACE"
  | debug => "DEBUG"
  | info => "INFO"
  | warn => "WARN"

def ofName? : String → Option Level
  | "trace" => some trace
  | "debug" => some debug
  | "info" => some info
  | "warn" => some warn
  | _ => none

@[simp] theorem ofName?_name (level : Level) : ofName? level.name = some level := by
  cases level <;> rfl

end Level

/-- One thing that happened in a run. -/
inductive LogRecord where
  /-- A text was read into so many groups. -/
  | parsed (groups : Nat) (text : String)
  /-- A selector is about to be looked up. -/
  | lookingUp (raw : String)
  /-- So many groups were resolved, to sequences of these lengths. -/
  | applied (groups matched selected : Nat)
  /-- So many of the included nodes were left after the exclusions. -/
  | narrowed (kept included : Nat)
  /-- A selector asks for more nodes than a manifest can tell. -/
  | withoutEdges (raw : String)
  /-- A config file was read. -/
  | loadedConfig (path : String) (settings : Settings)
  /-- So many groups are about to be resolved against so many nodes. -/
  | resolving (includes excludes nodes : Nat)
deriving DecidableEq, Repr

namespace LogRecord

def level : LogRecord → Level
  | lookingUp _ => .trace
  | withoutEdges _ => .warn
  | parsed .. | applied .. | narrowed .. | loadedConfig .. | resolving .. => .debug

/-- The wording of the record. -/
def text : LogRecord → String
  | parsed groups text =>
    "Parsed " ++ toString groups ++ " selector group(s) from `" ++ text ++ "`."
  | lookingUp raw => "Looking up selector `" ++ raw ++ "`."
  | applied groups matched selected =>
    "Applied " ++ toString groups ++ " selector group(s): " ++ toString matched ++ " matched, " ++
      toString selected ++ " selected."
  | narrowed kept included =>
    "Selected " ++ toString kept ++ " of " ++ toString included ++
      " included node(s) after exclusions."
  | withoutEdges raw =>
    "Selector `" ++ raw ++ "` asks for parents or children, but the manifest has no edges: " ++
      "only directly matching nodes will be selected."
  | loadedConfig path settings => "Loaded config from " ++ path ++ ": " ++ settings.logText
  | resolving includes excludes nodes =>
    "Resolving " ++ toString includes ++ " include and " ++ toString excludes ++
      " exclude group(s) against " ++ toString nodes ++ " node(s)."

/-- The record as a line: its label and its wording. -/
def line (r : LogRecord) : String := r.level.label ++ " " ++ r.text

end LogRecord

/-- Records in the order in which they were made. -/
abbrev Log := List LogRecord

/-- The records of a level or a weightier one. -/
def Log.atLeast (level : Level) (log : Log) : Log :=
  log.filter fun r => level.rank ≤ r.level.rank

@[simp] theorem Log.atLeast_append (level : Level) (one two : Log) :
    Log.atLeast level (one ++ two) = Log.atLeast level one ++ Log.atLeast level two := by
  simp [Log.atLeast]

end NodeSelection
