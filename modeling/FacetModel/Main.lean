import FacetModel.CommandLine.Session

/-!
# The command line

Reads the environment and the files that the arguments name, runs `CommandLine.run`, and prints.
-/

namespace FacetModel.CommandLine

/-- What is in a file, if it can be read. -/
def readText? (path : String) : IO (Option String) := do
  try
    return some (← IO.FS.readFile path)
  catch _ => return none

/-- What is in a file of the working directory or of the nearest directory above it that has one.
The number bounds how many directories are tried. -/
def readNearest? (path : String) : Nat → IO (Option String)
  | 0 => return none
  | steps + 1 => do
    match ← readText? path with
    | some text => return some text
    | none => readNearest? ("../" ++ path) steps

/-- The values of those variables that are set. -/
def readEnvironment (names : List String) : IO Environment := do
  let pairs ← names.mapM fun name => do return (name, ← IO.getEnv name)
  return .ofList (pairs.filterMap fun (name, value) => value.map fun v => (name, v))

/-- Runs the command line on the files and the environment of the process. -/
def session (args : List String) : IO Outcome := do
  let depth := (Text.split '/' (toString (← IO.currentDir))).length
  let environmentText ← readNearest? environmentPath depth
  let environment ← readEnvironment (wantedVariables environmentText)
  let contents ← (paths args).mapM fun path => do return (path, ← readText? path)
  let files := (environmentPath, environmentText) :: contents
  return run (fun path => (files.lookup path).join) environment args

end FacetModel.CommandLine

open FacetModel in
/-- Runs the program with some arguments. -/
def main (args : List String) : IO UInt32 := do
  let outcome ← CommandLine.session args
  IO.print outcome.output
  match outcome.message with
  | some message => IO.eprintln ("Error: " ++ message)
  | none =>
    if outcome.status ≠ 0 then IO.eprintln "For more information, try '--help'."
  return outcome.status.toUInt32
