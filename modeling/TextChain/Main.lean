import TextChain.CommandLine

/-!
# The program

Reads the files that a command line may ask for, works it off, and prints or writes the result.
-/

namespace TextChain.Program

/-- Why the system refused an operation on a file. -/
def refusal : IO.Error → FileError
  | .noFileOrDirectory .. => .notFound
  | e => .other (toString e)

def readFile (path : String) : IO (Except FileError Text.Utf8.Bytes) := do
  try
    let contents ← IO.FS.readBinFile path
    pure (.ok contents.toList)
  catch e => pure (.error (refusal e))

def environment : IO Settings.Variables := do
  let names := Config.fieldNames.map fun name => (Settings.Variables.settingPrefix ++ name).toUpper
  names.foldlM (fun env name => do
    match ← IO.getEnv name with
    | some value => pure (env.insert name value)
    | none => pure env) .empty

/-- Logs a line and gives the exit code of a failure. -/
def fail (line : String) : IO UInt32 := do
  IO.eprintln s!"ERROR {line}"
  pure 1

end TextChain.Program

open TextChain in
def main (args : List String) : IO UInt32 := do
  let found ← (CommandLine.readPaths args).mapM fun path => do
    pure (path, ← Program.readFile path)
  let files : FileReader := fun path => (found.lookup path).getD (.error .notFound)
  match CommandLine.plan files .usual (← Program.environment) args with
  | .refuse =>
    IO.eprintln "error: the arguments make no sense"
    pure 2
  | .fail line => Program.fail line
  | .print text =>
    IO.print text
    pure 0
  | .save path text =>
    try
      IO.FS.writeFile path text
      pure 0
    catch e => Program.fail (CommandLine.writeFailure path (Program.refusal e))
