import TextChain.CommandLine.Arguments
import TextChain.Engine
import TextChain.Settings.Load
import TextChain.Text.Shielded
import TextChain.Tool.Start

/-!
# The command line

A run loads the configuration, builds an engine, compiles one file and either prints the result or
writes it to a file. Up to the writing a run only reads files, so it comes in two steps: `plan` decides
what is to be done, and `run` does it in a workspace. Programs of the configuration are those of a workspace.
-/

namespace TextChain

/-- The builder of the engine that has the built-in stages only. -/
def Builder.initial : Builder := .ofPrograms .usual

instance : Inhabited Builder := ⟨.initial⟩

namespace CommandLine

open Text.Utf8 (Bytes)

/-- The name and the version of the program. -/
def versionText : String := "catena 0.1.0\n"

/-! ### Reports -/

/-- A message followed by those of its causes, as one line. -/
def logLine (message : String) (causes : List String) : String :=
  ": ".intercalate (message :: causes)

def ofEngineError (e : EngineError) : String :=
  logLine e.message e.causes

def ofStageError (e : StageError) : String :=
  logLine e.message e.causes

/-! ### Compiling -/

/-- The configuration that a command line asks for: its mappings come after those that were loaded. -/
def Arguments.configure (a : Arguments) (config : Config) : Config :=
  let mapped := a.mappings.foldl (fun c (ext, value) => c.withMapping ext value) config
  { mapped with autoForce := a.autoForce || config.autoForce }

/-- Runs a part of the work. What it did stays, and an error is turned into a line to log. -/
def within {α : Type} (report : EngineError → String) (act : Act α) :
    ExceptT String (StateM Session) α :=
  ExceptT.mk do
    let result ← act.run
    pure (result.mapError report)

def compile (files : FileReader) (programs : Programs) (a : Arguments) (config : Config) :
    ExceptT String (StateM Session) String := do
  let engine ← within (fun e => logLine "Failed to initialize engine" [ofEngineError e])
    { Builder.ofPrograms programs with config := a.configure config }.build
  let options := Settings.optionsOf a.options
  let output ← match a.ext with
    | some ext =>
      match files.text a.input with
      | .ok text => within ofEngineError (engine.compile ext text options)
      | .error e => throw (logLine s!"Failed to read {a.input}" [e.message])
    | none =>
      within ofEngineError
        (engine.compileFile a.input ((files.text a.input).mapError FileError.message) options)
  match output.force options with
  | .ok text => pure text
  | .error e => throw (ofStageError e)

/-! ### Plans -/

/-- What is left to do when a command line was worked off. -/
inductive Plan
  | refuse
  | print (text : String)
  | save (path text : String)
  | fail (line : String)
deriving DecidableEq, Repr

/-- Works off a command line. -/
def plan (files : FileReader) (programs : Programs) (env : Settings.Variables)
    (args : List String) : Plan :=
  match Request.parse? args with
  | none => .refuse
  | some .version => .print versionText
  | some (.compile a) =>
    match Settings.load files a.config env with
    | .error e => .fail (Text.shielded e.logLine)
    | .ok config =>
      match ((compile files programs a config).run.run .initial).1 with
      | .error line => .fail (Text.shielded line)
      | .ok text =>
        match a.output with
        | some path => .save path text
        | none => .print text

/-- The line that is logged when a file cannot be written. -/
def writeFailure (path : String) (e : FileError) : String :=
  Text.shielded (logLine s!"Failed to write {path}" [e.message])

/-- The paths that a command line may lead to reading. -/
def readPaths (args : List String) : List String :=
  match Request.parse? args with
  | some (.compile a) =>
    let configs := match a.config with
      | some path => [path]
      | none => Settings.defaultPaths
    Settings.variablesPath :: a.input :: configs.flatMap Settings.candidates
  | _ => []

/-! ### Runs -/

structure Outcome where
  code : Nat
  printed : String
  logged : Option String
  workspace : Workspace

def run (w : Workspace) (env : Settings.Variables) (args : List String) : Outcome :=
  let seen := (Settings.effectiveVariables w.reader env).entries
  match plan w.reader (.ofWorkspace w seen) env args with
  | .refuse => ⟨2, "", none, w⟩
  | .print text => ⟨0, text, none, w⟩
  | .fail line => ⟨1, "", some line, w⟩
  | .save path text =>
    match w.write path (Text.Utf8.encode text) with
    | .ok w => ⟨0, "", none, w⟩
    | .error e => ⟨1, "", some (writeFailure path e), w⟩

/-- The files of a workspace that another one does not have with the same contents. -/
def changes (before after : Workspace) : List (String × Bytes) :=
  after.files.filter fun (path, contents) =>
    before.entries.find? path ≠ some (.file contents)

end CommandLine

end TextChain
