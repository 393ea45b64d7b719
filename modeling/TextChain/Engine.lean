import TextChain.Config
import TextChain.Path
import TextChain.Registry
import TextChain.Stage.Program
import TextChain.Stage.Table

/-!
# Engines

An engine is a configuration with the setup that follows from it. Building one maps the configured
extensions in the order of their names and stops at the first that cannot be mapped, so the result
does not depend on how the configuration was put together. Programs of the configuration become
stages of the built-in table; a resolver that the user supplies takes the place of the table, and
then the programs are not used.
-/

namespace TextChain

structure Builder where
  config : Config
  /-- The stages that are looked up unless there is a resolver. -/
  table : StageTable
  resolver : Option Resolver
  /-- What the programs of the configuration do. -/
  programs : Programs

structure Engine where
  config : Config
  setup : Setup

/-- How deep documents may be nested in blocks of documents. A limit is there only to make compiling a total
function. -/
def nestingLimit : Nat := 100000

namespace Builder

/-- The builder of the engine that has the built-in stages only. -/
def ofPrograms (programs : Programs) : Builder := ⟨.default, .builtIn, none, programs⟩

def withCommands (programs : Programs) (table : StageTable) (commands : List (String × Command)) :
    StageTable :=
  commands.foldl (fun table (name, command) =>
    table.insertAs name (.program programs name .configured command.program command.args)) table

/-- What answers which stage a name stands for. -/
def effectiveResolver (b : Builder) : Resolver :=
  match b.resolver with
  | some resolver => resolver
  | none => (withCommands b.programs b.table b.config.commands.entries).toResolver

def setup (b : Builder) : Setup where
  resolver := b.effectiveResolver
  settings := b.config.resolverSettings
  conventions := b.config.conventions.chain?
  mode := b.config.mode
  nesting := nestingLimit

def addAll (setup : Setup) : List (String × String) → Act Unit
  | [] => pure ()
  | (ext, value) :: rest => do
    let _ ← Registry.add setup ext (some value)
    addAll setup rest

/-- Builds the engine: every configured extension is mapped, and its pipeline is made. -/
def build (b : Builder) : Act Engine := do
  addAll b.setup b.config.mappings.entries
  pure ⟨b.config, b.setup⟩

end Builder

namespace Engine

def compile (e : Engine) (ext text : String) (options : Options) : Act Output :=
  Registry.compile e.setup ext text options

def compileToText (e : Engine) (ext text : String) (options : Options) : Act String := do
  let output ← e.compile ext text options
  Act.rendering (output.force options)

/-- Compiles a file by the extension of its name. `contents` is what reading the file gave. -/
def compileFile (e : Engine) (path : String) (contents : Except String String)
    (options : Options) : Act Output := do
  match Path.extension? path with
  | none => throw (.missingExtension path)
  | some ext =>
    match contents with
    | .error reason => throw (.io reason)
    | .ok text => e.compile ext text options

end Engine

end TextChain
