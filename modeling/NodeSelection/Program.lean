import NodeSelection.Arguments.Reader
import NodeSelection.Config
import NodeSelection.Files
import NodeSelection.Json.Printer
import NodeSelection.Manifest.Record
import NodeSelection.Record.Hits
import NodeSelection.Record.Selection

/-!
The program: from a command line and files to what is printed.

The work is done in order: the config file, the selectors, the manifest, the
selection. The first of them that fails ends the run. What the parsers of config files and
manifests say of a text that they refuse is a parameter of the run.
-/

namespace NodeSelection

/-- The files that the program reads. -/
inductive Document where
  | config
  | manifest
deriving DecidableEq, Repr

def Document.name : Document → String
  | config => "config file"
  | manifest => "manifest"

/-- What the parser of a document says of a text that it refuses. -/
abbrev Complaints := Document → String → String

/-- Why a run fails. -/
inductive Failure where
  /-- A file cannot be read. -/
  | unreadable (document : Document) (path : String) (error : ReadError)
  /-- A file is read, but does not hold what it should, as its parser complains. -/
  | malformed (document : Document) (path : String) (complaint : String)
  /-- A selector is malformed. -/
  | badSelector (error : SyntaxError)
deriving DecidableEq, Repr

namespace Failure

def message : Failure → String
  | unreadable document path error =>
    "Failed to read " ++ document.name ++ " " ++ path ++ ": " ++ error.message
  | malformed document path complaint =>
    "Failed to parse " ++ document.name ++ " " ++ path ++ ": " ++ complaint
  | badSelector error => error.message

/-- A malformed selector is told apart from all else. -/
def exitCode : Failure → Nat
  | badSelector _ => 2
  | _ => 1

end Failure

/-! ### Running a command -/

section Run

variable {σ : Type} (complain : Complaints) (files : Files)

/-- Reads a file and what it holds. -/
def load {α : Type} (document : Document) (parse? : String → Option α) (path : String) :
    Session σ Failure α :=
  match files path with
  | .error error => .fail (.unreadable document path error)
  | .ok text =>
    match parse? text with
    | none => .fail (.malformed document path (complain document text))
    | some a => pure a

/-- The settings of the config file, if one is named. -/
def loadConfig : Option String → Session σ Failure Settings
  | none => return .empty
  | some path => do
    let settings ← load complain files .config Settings.parse? path
    Session.note (.loadedConfig path settings)
    return settings

/-- The text of a record, with the line end after it. -/
def printed (record : Json) : String := record.pretty ++ "\n"

/-- Runs a command: the text that it prints. -/
def Invocation.run (i : Invocation) : Session σ Failure String := do
  let config ← loadConfig complain files i.config
  let selection ← (Selection.read (i.flags.orElse config).request).mapError .badSelector
  match i.command with
  | .parse => return printed selection.toJson
  | .apply path => do
    let manifest ← load complain files .manifest Manifest.parse? path
    Session.note (.resolving selection.included.length selection.excluded.length
      manifest.nodes.length)
    let hits ← (selection.select manifest.lookup).mapError fun never => nomatch never
    return printed (hits.toJson .text)

end Run

/-! ### Running a command line -/

/-- What came of a command line. -/
inductive Outcome where
  /-- This was printed. -/
  | success (output : String)
  /-- The command failed, and nothing was printed. -/
  | failure (reason : Failure)
  /-- No command was run. -/
  | refused (error : UsageError)
deriving DecidableEq, Repr

/-- The exit code of the program. -/
def Outcome.exitCode : Outcome → Nat
  | success _ => 0
  | failure reason => reason.exitCode
  | refused error => error.exitCode

/-- What a command writes to standard output. -/
def Outcome.stdout : Outcome → String
  | success output => output
  | _ => ""

/-- What a command writes to standard error. -/
def Outcome.stderr : Outcome → String
  | failure reason => reason.message ++ "\n"
  | _ => ""

/-- Runs a command line: what came of it, and the log. -/
def runProgram (complain : Complaints) (files : Files) (args : List String) : Outcome × Log :=
  match Invocation.read args with
  | .error error => (.refused error, [])
  | .ok i =>
    let reply := (i.run complain files).run ()
    match reply.outcome with
    | .ok output => (.success output, reply.log)
    | .error reason => (.failure reason, reply.log)

end NodeSelection
