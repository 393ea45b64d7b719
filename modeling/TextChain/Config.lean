import TextChain.Json.Decode
import TextChain.Pipeline
import TextChain.Target

/-!
# Configuration

What an engine is built from, and how it is read from JSON.
-/

namespace TextChain

/-- A program that makes a stage. -/
structure Command where
  program : String
  args : List String
deriving DecidableEq, Repr

structure Config where
  installDir : String
  allowFetch : Bool
  /-- Whether renderers between stages are rendered. -/
  autoForce : Bool
  /-- Whether an extension without a chain has the chain of its own name. -/
  fallback : Bool
  /-- The mapping values of extensions that are mapped at the start. -/
  mappings : Dict String
  /-- The chains of extensions that are not mapped. -/
  defaults : Dict String
  /-- Stages that start a program, by name. -/
  commands : Dict Command

namespace Config

/-- The configuration that says nothing. -/
def default : Config where
  installDir := ResolverSettings.default.installDir
  allowFetch := false
  autoForce := false
  fallback := true
  mappings := .empty
  defaults := .empty
  commands := .empty

instance : Inhabited Config := ⟨default⟩

def resolverSettings (c : Config) : ResolverSettings :=
  ⟨c.installDir, c.allowFetch⟩

/-- What happens to renderers between stages. -/
def mode (c : Config) : ForceMode :=
  if c.autoForce then .auto else .strict

/-- The chains of extensions that are not mapped. -/
def conventions (c : Config) : Conventions :=
  ({ overrides := .empty, fallback := c.fallback } : Conventions).withOverrides c.defaults

/-- Maps an extension at the start. -/
def withMapping (c : Config) (ext value : String) : Config :=
  { c with mappings := c.mappings.insert ext value }

/-- Sets the chain of an extension that is not mapped. -/
def withDefault (c : Config) (ext spec : String) : Config :=
  { c with defaults := c.defaults.insert ext spec }

/-- Adds a stage that starts a program. -/
def withCommand (c : Config) (name : String) (command : Command) : Config :=
  { c with commands := c.commands.insert name command }

/-! ### Reading -/

open Json Json.Decode

/-- Reads a program with its arguments, of which there may be none. -/
def decodeCommand? : Decoder Command := fun s => do
  let given ← fields ["program", "args"] s
  let program ← field given "program" text none
  let args ← field given "args" (list text) (some [])
  some ⟨program, args⟩

/-- The names of the fields of a configuration, in order. -/
def fieldNames : List String :=
  ["install_dir", "allow_fetch", "auto_force", "fallback_to_extension", "mappings", "defaults",
   "commands"]

/-- Reads a configuration. Fields that are not given have their default values. -/
def decode? : Decoder Config := fun s => do
  let given ← fields fieldNames s
  let installDir ← field given "install_dir" text (some default.installDir)
  let allowFetch ← field given "allow_fetch" bool (some default.allowFetch)
  let autoForce ← field given "auto_force" bool (some default.autoForce)
  let fallback ← field given "fallback_to_extension" bool (some default.fallback)
  let mappings ← field given "mappings" (dict text) (some default.mappings)
  let defaults ← field given "defaults" (dict text) (some default.defaults)
  let commands ← field given "commands" (dict decodeCommand?) (some default.commands)
  some ⟨installDir, allowFetch, autoForce, fallback, mappings, defaults, commands⟩

/-- Reads a configuration from a JSON text. -/
def ofJson? (source : String) : Option Config := do
  decode? (← Syntax.parse? source)

end Config

end TextChain
