import NodeSelection.Program

/-!
The command line program. It reads the files that the command line names, runs it,
prints what it gives and ends with its exit code.
-/

namespace NodeSelection

/-- Why the system could not read a file. It gives a code or the negative of it. -/
def ReadError.ofSystem : IO.Error → ReadError
  | .noFileOrDirectory .. => .notFound
  | .inappropriateType _ code reason =>
    if code ∈ [21, 0 - 21] then .isADirectory
    else if code ∈ [20, 0 - 20] then .notADirectory
    else .other reason
  | error => .other (toString error)

/-- Reads a file as a text. -/
def readFile (path : String) : IO (Except ReadError String) := do
  try
    return textOfBytes (← IO.FS.readBinFile path)
  catch error =>
    return .error (.ofSystem error)

/-- The paths that a command line names. -/
def pathsOf (args : List String) : List String :=
  match Invocation.read args with
  | .error _ => []
  | .ok i =>
    i.config.toList ++
      match i.command with
      | .parse => []
      | .apply manifest => [manifest]

/-- Runs a command line on the files of the system, and prints what comes of it. -/
def runOnSystem (args : List String) : IO UInt32 := do
  let read ← (pathsOf args).mapM fun path => do return (path, ← readFile path)
  let files : Files := fun path => (read.lookup path).getD (.error .notFound)
  let (outcome, _) := runProgram (fun document _ => "not a " ++ document.name) files args
  IO.print outcome.stdout
  IO.eprint outcome.stderr
  if let .refused error := outcome then IO.eprintln (repr error)
  return outcome.exitCode.toUInt32

end NodeSelection

def main (args : List String) : IO UInt32 := NodeSelection.runOnSystem args
